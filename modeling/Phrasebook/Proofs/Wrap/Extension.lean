import Phrasebook.Proofs.Lists
import Phrasebook.Proofs.Literal.Quoting
import Phrasebook.Proofs.Tree.Gaining
import Phrasebook.Scope.Bindings
import Phrasebook.Wrap.Header

/-! What an import brings in, and an import that was made to bring in a name more. A name is brought in by
a specifier, or by a text that was put into the braces or into the clause; the names that were brought in
before still are. -/

namespace Phrasebook

open Node

namespace Header

/-- The specifiers in the braces of an import statement. -/
def specifiers (statement : Node) : List Node :=
  ((namedImports? statement).map fun named =>
    named.namedChildren.filter fun c => c.kind == "import_specifier").getD []

def exportsName (source : Bytes) (name : Text) (spec : Node) : Bool :=
  (spec.childByField? "name").any fun c => (Word.text name).names (c.textD source)

def joiner (name : Text) : Text := ", " ++ name

def lone (name : Text) : Text := " " ++ name ++ " "

def besides (name : Text) : Text := ", \x7b " ++ name ++ " \x7d"

/-- How the nodes in a pair of braces bring in a name, and under which local name: by a specifier
that is not one of a type, by a text behind the last specifier and perhaps other names added there,
or by a text right behind the opening brace of braces without a specifier. -/
inductive Brings (source : Bytes) (name : Text) (items : List Node) : Text → Prop
  | specifier {spec : Node} {shown : Text} (hspec : spec ∈ items)
      (hkind : spec.kind = "import_specifier") (htype : isTypeOnly spec = false)
      (hname : exportsName source name spec = true)
      (hlocal : Scope.specifierName? source spec = some shown) : Brings source name items shown
  | joined {past after : List Node} {spec : Node} (names : List Text)
      (hitems : items = past ++ spec ::
        (names.map (leaf <| joiner ·) ++ leaf (joiner name) :: after))
      (hspec : spec.kind = "import_specifier") (hnames : name ∉ names)
      (hafter : ∀ c ∈ after, c.kind ≠ "import_specifier") : Brings source name items name
  | alone {brace : Node} {after : List Node} (hitems : items = brace :: leaf (lone name) :: after)
      (hbrace : brace.kind = "\x7b") (hafter : ∀ c ∈ after, c.kind ≠ "import_specifier") :
      Brings source name items name

/-- How an import clause brings in a name: in its braces, or in braces put behind a default import. -/
inductive Gives (source : Bytes) (name : Text) (clause : Node) : Text → Prop
  | braces {named : Node} {shown : Text} (hnamed : named ∈ clause.children)
      (hkind : named.kind = "named_imports") (h : Brings source name named.children shown) :
      Gives source name clause shown
  | beside {past after : List Node} {default : Node}
      (hitems : clause.children = past ++ default :: leaf (besides name) :: after)
      (hdefault : default.kind = "identifier") : Gives source name clause name

/-- An import statement from a module, not one of types, that brings in a name of it. -/
structure ImportsBy (source : Bytes) (name module : Text) (s : Node) (shown : Text) : Prop where
  kind : s.kind = "import_statement"
  origin : sourceOf? source s = .ok (some module)
  value : isTypeOnly s = false
  clause : ∃ clause ∈ s.children, clause.kind = "import_clause" ∧ Gives source name clause shown

/-- A module that brings in a name of another one, and the local name for it: by one of its import
statements, or by one that was put in, in which a string literal names the other module. -/
inductive Imports (source : Bytes) (root : Node) (name module : Text) : Text → Prop
  | statement {s : Node} {shown : Text} (hs : s ∈ root.children)
      (h : ImportsBy source name module s shown) : Imports source root name module shown
  | created {t literal : Text} (hleaf : leaf t ∈ root.children)
      (ht : t = "\n" ++ ("import \x7b " ++ name ++ " \x7d from " ++ literal ++ ";") ∨
        t = "import \x7b " ++ name ++ " \x7d from " ++ literal ++ ";" ++ "\n")
      (htoken : Escape.StringToken literal)
      (hvalue : Escape.decode (Text.inner 1 literal) = .ok module) :
      Imports source root name module name

/-- Braces that a name was put into: behind the last specifier, or behind the opening brace when there
is none. -/
inductive Filled (name : Text) (named named' : Node) : Prop
  | joined {last : Nat} (hlast : lastOfKind? named "import_specifier" = some last)
      (h : Gains (last + 1) (joiner name) named named') : Filled name named named'
  | alone (hlast : lastOfKind? named "import_specifier" = none)
      (h : Gains 1 (lone name) named named') : Filled name named named'

/-- An import clause that a name was put into: in its braces, or in braces behind a default import. -/
inductive Widened (name : Text) (clause clause' : Node) : Prop
  | braces {i : Nat} (hi : indexOfKind? clause "named_imports" = some i)
      (h : Within i (Filled name) clause clause') : Widened name clause clause'
  | beside {i : Nat} (hi : indexOfKind? clause "named_imports" = none)
      (hkinds : clause.namedChildren.map (·.kind) = ["identifier"])
      (hdefault : clause.children.findIdx? Node.named = some i)
      (h : Gains (i + 1) (besides name) clause clause') : Widened name clause clause'

def Extended (name : Text) (s s' : Node) : Prop :=
  ∃ j, indexOfKind? s "import_clause" = some j ∧ Within j (Widened name) s s'

/-- An import statement whose clause and braces stand in the source, and whose braces open with one. -/
structure IsPlain (s : Node) : Prop where
  clause : ∀ c ∈ s.children, c.kind = "import_clause" → c.info.built = false
  braces : ∀ c ∈ s.children, c.kind = "import_clause" → ∀ d ∈ c.children, d.kind = "named_imports" →
    d.info.built = false ∧ ∃ brace rest, d.children = brace :: rest ∧ brace.kind = "\x7b"

section Positions

variable {n c : Node} {kind : String} {k : Nat}

theorem kind_of_indexOfKind? (h : indexOfKind? n kind = some k) :
    ∃ c, n.children[k]? = some c ∧ c.kind = kind ∧ (n.childOfKind? [kind]) = some c := by
  obtain ⟨hlt, hkind, hfirst⟩ := List.findIdx?_eq_some_iff_getElem.1 h
  refine ⟨n.children[k], List.getElem?_eq_getElem hlt, by simpa using hkind, ?_⟩
  refine List.find?_eq_some_iff_getElem.2 ⟨by simpa using hkind, k, hlt, rfl, fun j hj => ?_⟩
  simpa using hfirst j hj

theorem forall_ne_of_indexOfKind? (h : indexOfKind? n kind = none) : ∀ c ∈ n.children, c.kind ≠ kind := by
  simpa [indexOfKind?] using h

theorem split_of_lastOfKind? (h : lastOfKind? n kind = some k) :
    ∃ past c after, n.children = past ++ c :: after ∧ past.length = k ∧ c.kind = kind ∧
      ∀ d ∈ after, d.kind ≠ kind := by
  obtain ⟨⟨c, j⟩, hlast, rfl⟩ := Option.map_eq_some_iff.1 h
  obtain ⟨ys, hfilter⟩ := List.getLast?_eq_some_iff.1 hlast
  obtain ⟨l₁, l₂, hzip, -, hsecond⟩ := List.filter_eq_append_iff.1 hfilter
  obtain ⟨l₃, l₄, rfl, -, hc, hnone⟩ := List.filter_eq_cons_iff.1 hsecond
  rw [← List.append_assoc] at hzip
  have hk : n.children.zipIdx[(l₁ ++ l₃).length]? = some (c, j) := by
    rw [hzip, List.getElem?_append_right (Nat.le_refl _), Nat.sub_self]
    rfl
  rw [List.getElem?_zipIdx] at hk
  obtain ⟨d, -, hdj⟩ := Option.map_eq_some_iff.1 hk
  obtain ⟨rfl, hj⟩ := Prod.mk.inj hdj
  have hchildren : n.children = (l₁ ++ l₃).map (·.1) ++ d :: l₄.map (·.1) := by
    rw [← List.map_cons (f := (·.1)) (a := (d, j)), ← List.map_append, ← hzip, List.zipIdx_map_fst]
  refine ⟨_, d, _, hchildren, ?_, by simpa using hc, fun x hx => ?_⟩
  · rw [List.length_map]
    omega
  · obtain ⟨y, hy, rfl⟩ := List.mem_map.1 hx
    simpa using List.filter_eq_nil_iff.1 hnone y hy

theorem forall_ne_of_lastOfKind? (h : lastOfKind? n kind = none) : ∀ c ∈ n.children, c.kind ≠ kind := by
  rw [lastOfKind?, Option.map_eq_none_iff, List.getLast?_eq_none_iff, List.filter_eq_nil_iff] at h
  intro c hc
  obtain ⟨k, hk⟩ := List.mem_iff_getElem?.1 hc
  have hmem : (c, k) ∈ n.children.zipIdx := List.mem_zipIdx_iff_getElem?.2 hk
  simpa using h _ hmem

end Positions

section Extending

variable {source : Bytes} {name other shown : Text} {named named' clause clause' s s' : Node}

theorem Filled.edits (h : Filled name named named') : Edits named named' := by
  cases h with
  | joined _ h => exact h.edits
  | alone _ h => exact h.edits

theorem Filled.gains (h : Filled name named named') : ∃ k t, Gains k t named named' := by
  cases h with
  | joined _ h => exact ⟨_, _, h⟩
  | alone _ h => exact ⟨_, _, h⟩

theorem filter_specifiers_of_gains {k : Nat} {t : Text} (h : Gains k t named named') :
    (named'.namedChildren.filter fun c => c.kind == "import_specifier") =
      named.namedChildren.filter fun c => c.kind == "import_specifier" := by
  have hleaf : ((leaf t).kind == "import_specifier" && (leaf t).named) = false := rfl
  rw [namedChildren, namedChildren, h.children, List.filter_filter, List.filter_filter,
    List.filter_append, List.filter_cons, hleaf, if_neg Bool.false_ne_true, ← List.filter_append,
    List.take_append_drop]

theorem Filled.brings (h : Filled name named named')
    (hbrace : ∃ brace rest, named.children = brace :: rest ∧ brace.kind = "\x7b") :
    Brings source name named'.children name := by
  cases h with
  | @joined last hlast h =>
    obtain ⟨past, c, after, hsplit, rfl, hkind, hafter⟩ := split_of_lastOfKind? hlast
    rw [List.append_cons] at hsplit
    have hchildren := h.children_of_append _ hsplit (by simp)
    rw [← List.append_cons] at hchildren
    exact .joined [] hchildren hkind (by simp) hafter
  | alone hlast h =>
    obtain ⟨brace, rest, hchildren, hkind⟩ := hbrace
    have hnone := forall_ne_of_lastOfKind? hlast
    rw [hchildren] at hnone
    have hchildren' := h.children_of_append [brace] hchildren rfl
    exact .alone hchildren' hkind (List.forall_mem_cons.1 hnone).2

theorem eq_of_last {p : Node → Prop} {past past' after after' : List Node} {c c' : Node}
    (h : past ++ c :: after = past' ++ c' :: after') (hc : p c) (hc' : p c')
    (hafter : ∀ d ∈ after, ¬ p d) (hafter' : ∀ d ∈ after', ¬ p d) :
    past = past' ∧ c = c' ∧ after = after' := by
  rcases List.append_eq_append_iff.1 h with ⟨ds, hpast, hrest⟩ | ⟨ds, hpast, hrest⟩
  · cases ds with
    | nil =>
      obtain ⟨hcc, hrest⟩ := List.cons.inj hrest
      exact ⟨by rw [hpast, List.append_nil], hcc, hrest⟩
    | cons d ds =>
      obtain ⟨-, rfl⟩ := List.cons.inj hrest
      exact (hafter c' (by simp) hc').elim
  · cases ds with
    | nil =>
      obtain ⟨hcc, hrest⟩ := List.cons.inj hrest
      exact ⟨by rw [hpast, List.append_nil], hcc.symm, hrest.symm⟩
    | cons d ds =>
      obtain ⟨-, rfl⟩ := List.cons.inj hrest
      exact (hafter' c (by simp) hc).elim

theorem Filled.keeps (h : Filled name named named') (hother : other ≠ name)
    (hspec : ∃ c ∈ named.children, c.kind = "import_specifier")
    (hbrings : Brings source other named.children shown) :
    Brings source other named'.children shown := by
  cases h with
  | alone hlast h =>
    obtain ⟨c, hc, hkind⟩ := hspec
    exact (forall_ne_of_lastOfKind? hlast c hc hkind).elim
  | @joined last hlast h =>
    cases hbrings with
    | specifier hc hkind htype hname hlocal =>
      exact .specifier (h.mem hc) hkind htype hname hlocal
    | @joined past after spec names hitems hkind hnames hafter =>
      -- The specifier that the name stands behind is the last one, so the new name goes between.
      obtain ⟨past', spec', after', hsplit, rfl, hkind', hafter'⟩ := split_of_lastOfKind? hlast
      have hleaves : ∀ d ∈ names.map (leaf <| joiner ·) ++ leaf (joiner other) :: after,
          d.kind ≠ "import_specifier" := by
        intro d hd
        rcases List.mem_append.1 hd with hd | hd
        · obtain ⟨n, -, rfl⟩ := List.mem_map.1 hd
          exact (by decide : "synthetic" ≠ "import_specifier")
        · rcases List.mem_cons.1 hd with rfl | hd
          · exact (by decide : "synthetic" ≠ "import_specifier")
          · exact hafter d hd
      obtain ⟨rfl, rfl, rfl⟩ := eq_of_last (p := fun c => c.kind = "import_specifier")
        (hsplit.symm.trans hitems) hkind' hkind hafter' hleaves
      rw [List.append_cons] at hsplit
      have hchildren := h.children_of_append _ hsplit (by simp)
      rw [← List.append_cons] at hchildren
      refine .joined (name :: names) hchildren hkind ?_ hafter
      exact fun h => (List.mem_cons.1 h).elim hother hnames
    | alone hitems hbrace hafter =>
      obtain ⟨c, hc, hkind⟩ := hspec
      rw [hitems] at hc
      rcases List.mem_cons.1 hc with rfl | hc
      · rw [hbrace] at hkind
        exact absurd hkind (by decide)
      · rcases List.mem_cons.1 hc with rfl | hc
        · exact absurd hkind (by decide : "synthetic" ≠ "import_specifier")
        · exact (hafter c hc hkind).elim

theorem Widened.edits (h : Widened name clause clause') : Edits clause clause' := by
  cases h with
  | braces _ h => exact h.edits
  | beside _ _ _ h => exact h.edits

theorem Widened.gives (h : Widened name clause clause')
    (hbraces : ∀ d ∈ clause.children, d.kind = "named_imports" →
      ∃ brace rest, d.children = brace :: rest ∧ brace.kind = "\x7b") :
    Gives source name clause' name := by
  cases h with
  | @braces i hi h =>
    obtain ⟨named, named', hnamed, hfilled, hchildren⟩ := h.child
    obtain ⟨c, hc, hkind, -⟩ := kind_of_indexOfKind? hi
    obtain rfl : c = named := Option.some.inj (hc.symm.trans hnamed)
    have hmem : named' ∈ clause'.children := by
      rw [hchildren]
      exact List.mem_of_getElem? (getElem?_set_of_getElem? hnamed)
    exact .braces hmem (hfilled.edits.kind.trans hkind)
      (hfilled.brings (hbraces c (List.mem_of_getElem? hc) hkind))
  | @beside i hi hkinds hdefault h =>
    obtain ⟨hlt, hnamed, -⟩ := List.findIdx?_eq_some_iff_getElem.1 hdefault
    have hmem : clause.children[i] ∈ clause.namedChildren :=
      List.mem_filter.2 ⟨List.getElem_mem hlt, hnamed⟩
    have hkind : clause.children[i].kind = "identifier" := by
      have := List.mem_map_of_mem (f := (·.kind)) hmem
      rw [hkinds] at this
      exact List.mem_singleton.1 this
    have hsplit : clause.children = (clause.children.take i ++ [clause.children[i]]) ++
        clause.children.drop (i + 1) := by
      rw [List.append_assoc, List.singleton_append, ← List.drop_eq_getElem_cons hlt,
        List.take_append_drop]
    have hlength : (clause.children.take i ++ [clause.children[i]]).length = i + 1 := by
      rw [List.length_append, List.length_take, Nat.min_eq_left (Nat.le_of_lt hlt)]
      rfl
    have hchildren := h.children_of_append _ hsplit hlength
    rw [← List.append_cons] at hchildren
    exact .beside hchildren hkind

theorem Widened.keeps (h : Widened name clause clause') (hother : other ≠ name)
    (hspec : ∀ named, clause.childOfKind? ["named_imports"] = some named →
      ∃ c ∈ named.children, c.kind = "import_specifier")
    (hgives : Gives source other clause shown) : Gives source other clause' shown := by
  cases h with
  | @braces i hi h =>
    obtain ⟨named, named', hnamed, hfilled, hchildren⟩ := h.child
    obtain ⟨c, hc, hkind, hfirst⟩ := kind_of_indexOfKind? hi
    obtain rfl : c = named := Option.some.inj (hc.symm.trans hnamed)
    cases hgives with
    | @braces d _ hd hdkind hbrings =>
      rcases mem_set_of_ne (y := named') hnamed hd with rfl | hd
      · refine .braces ?_ (hfilled.edits.kind.trans hkind)
          (hfilled.keeps hother (hspec _ hfirst) hbrings)
        rw [hchildren]
        exact List.mem_of_getElem? (getElem?_set_of_getElem? hnamed)
      · exact .braces (hchildren ▸ hd) hdkind hbrings
    | @beside past after default hitems hdefault =>
      -- The braces that were filled are neither the default import nor the text behind it.
      have hdefault' : c ≠ default := by
        rintro rfl
        rw [hkind] at hdefault
        exact absurd hdefault (by decide)
      have hleaf : c ≠ leaf (besides other) := by
        rintro rfl
        exact absurd hkind (by decide : "synthetic" ≠ "named_imports")
      rw [hitems] at hnamed
      obtain ⟨past', after', hset⟩ := exists_set_eq (y := named') hnamed hdefault' hleaf
      rw [← hitems, ← hchildren] at hset
      exact .beside hset hdefault
  | @beside i hi hkinds hdefault h =>
    have hnone := forall_ne_of_indexOfKind? hi
    cases hgives with
    | braces hd hdkind _ => exact (hnone _ hd hdkind).elim
    | @beside past after default hitems hkind =>
      have hmem : leaf (besides other) ∈ clause.namedChildren := by
        refine List.mem_filter.2 ⟨?_, rfl⟩
        rw [hitems]
        simp
      have := List.mem_map_of_mem (f := (·.kind)) hmem
      rw [hkinds] at this
      exact absurd (List.mem_singleton.1 this) (by decide : "synthetic" ≠ "identifier")

theorem Extended.edits (h : Extended name s s') : Edits s s' := by
  obtain ⟨_, _, h⟩ := h
  exact h.edits

theorem isTypeOnly_extended (h : Extended name s s') : isTypeOnly s' = isTypeOnly s := by
  obtain ⟨j, -, h⟩ := h
  obtain ⟨clause, clause', hclause, hwidened, hchildren⟩ := h.child
  rw [Header.isTypeOnly, Header.isTypeOnly, hchildren]
  exact any_set hclause (by rw [hwidened.edits.kind, hwidened.edits.named])

theorem sourceOf?_extended (h : Extended name s s') : sourceOf? source s' = sourceOf? source s := by
  obtain ⟨j, hj, h⟩ := h
  obtain ⟨clause, clause', hclause, hwidened, hchildren⟩ := h.child
  obtain ⟨c, hc, hkind, -⟩ := kind_of_indexOfKind? hj
  obtain rfl : c = clause := Option.some.inj (hc.symm.trans hclause)
  have hkind' := hwidened.edits.kind.trans hkind
  have hfind := find?_set (p := fun c : Node => c.field == some "source") hclause
    (by rw [hwidened.edits.field])
  rw [← hchildren] at hfind
  rw [Header.sourceOf?, Header.sourceOf?, childByField?, childByField?]
  rcases hfind with hsame | ⟨hfound', hfound⟩
  · rw [hsame]
  -- A clause that is taken for the source is no string, before as after.
  · rw [hfound, hfound']
    simp only [hkind, hkind']
    rfl

theorem Extended.exists_clause (h : Extended name s s') :
    ∃ clause clause', clause ∈ s.children ∧ clause.kind = "import_clause" ∧
      Widened name clause clause' ∧ s.childOfKind? ["import_clause"] = some clause ∧
      s'.childOfKind? ["import_clause"] = some clause' ∧
      ∀ c ∈ s.children, c = clause ∨ c ∈ s'.children := by
  obtain ⟨j, hj, h⟩ := h
  obtain ⟨clause, clause', hclause, hwidened, hchildren⟩ := h.child
  obtain ⟨c, hc, hkind, hfirst⟩ := kind_of_indexOfKind? hj
  obtain rfl : c = clause := Option.some.inj (hc.symm.trans hclause)
  have hj' : indexOfKind? s' "import_clause" = some j := by
    rw [← hj, indexOfKind?, indexOfKind?, hchildren]
    exact findIdx?_set hclause (by rw [hwidened.edits.kind])
  obtain ⟨d, hd, -, hfirst'⟩ := kind_of_indexOfKind? hj'
  rw [hchildren, getElem?_set_of_getElem? hclause] at hd
  obtain rfl : clause' = d := Option.some.inj hd
  refine ⟨c, clause', List.mem_of_getElem? hc, hkind, hwidened, hfirst, hfirst', fun x hx => ?_⟩
  rw [hchildren]
  exact mem_set_of_ne hclause hx

theorem childOfKind?_mem {n c : Node} {kind : String} (h : n.childOfKind? [kind] = some c) :
    c ∈ n.children ∧ c.kind = kind := by
  refine ⟨List.mem_of_find?_eq_some h, ?_⟩
  simpa using List.find?_some h

theorem namedImports?_extended (h : Extended name s s') :
    (namedImports? s = none ∧ namedImports? s' = none) ∨
      ∃ named named', namedImports? s = some named ∧ namedImports? s' = some named' ∧
        Filled name named named' := by
  obtain ⟨clause, clause', -, -, hwidened, hfirst, hfirst', -⟩ := h.exists_clause
  rw [namedImports?, namedImports?, hfirst, hfirst', Option.bind_some, Option.bind_some]
  cases hwidened with
  | @braces i hi h =>
    obtain ⟨named, named', hnamed, hfilled, hchildren⟩ := h.child
    obtain ⟨c, hc, hkind, hbraces⟩ := kind_of_indexOfKind? hi
    obtain rfl : c = named := Option.some.inj (hc.symm.trans hnamed)
    have hi' : indexOfKind? clause' "named_imports" = some i := by
      rw [← hi, indexOfKind?, indexOfKind?, hchildren]
      exact findIdx?_set hnamed (by rw [hfilled.edits.kind])
    obtain ⟨d, hd, -, hbraces'⟩ := kind_of_indexOfKind? hi'
    rw [hchildren, getElem?_set_of_getElem? hnamed] at hd
    obtain rfl : named' = d := Option.some.inj hd
    exact .inr ⟨c, named', hbraces, hbraces', hfilled⟩
  | beside hi _ _ h =>
    have hnone := forall_ne_of_indexOfKind? hi
    refine .inl ⟨?_, ?_⟩
    · rw [childOfKind?, List.find?_eq_none]
      simpa using hnone
    · rw [childOfKind?, List.find?_eq_none]
      intro c hc
      rcases h.eq_or_mem hc with rfl | hc
      · exact (by decide : ¬ (["named_imports"].contains "synthetic" = true))
      · simpa using hnone c hc

theorem specifiers_extended (h : Extended name s s') : specifiers s' = specifiers s := by
  rw [specifiers, specifiers]
  rcases namedImports?_extended h with ⟨hnone, hnone'⟩ | ⟨named, named', hsome, hsome', hfilled⟩
  · rw [hnone, hnone']
  · obtain ⟨k, t, hgains⟩ := hfilled.gains
    rw [hsome, hsome', Option.map_some, Option.map_some, filter_specifiers_of_gains hgains]

end Extending

/-- An import statement that says what another one says, apart from what was put into it. -/
structure SameHead (source : Bytes) (s s' : Node) : Prop where
  kind : s'.kind = s.kind
  origin : sourceOf? source s' = sourceOf? source s
  value : isTypeOnly s' = isTypeOnly s
  specifiers : specifiers s' = specifiers s
  braces : (namedImports? s').isSome = (namedImports? s).isSome
  plain : IsPlain s → IsPlain s'

section Statements

variable {source : Bytes} {name other module shown : Text} {s s' : Node}

theorem SameHead.refl (s : Node) : SameHead source s s := ⟨rfl, rfl, rfl, rfl, rfl, id⟩

theorem SameHead.trans {s'' : Node} (h : SameHead source s s') (h' : SameHead source s' s'') :
    SameHead source s s'' :=
  ⟨h'.kind.trans h.kind, h'.origin.trans h.origin, h'.value.trans h.value,
    h'.specifiers.trans h.specifiers, h'.braces.trans h.braces, h'.plain ∘ h.plain⟩

theorem IsPlain.of_widened {clause clause' : Node} (hplain : IsPlain s)
    (hclause : clause ∈ s.children) (hkind : clause.kind = "import_clause")
    (h : Widened name clause clause') : clause'.info.built = false ∧
      ∀ d ∈ clause'.children, d.kind = "named_imports" →
        d.info.built = false ∧ ∃ brace rest, d.children = brace :: rest ∧ brace.kind = "\x7b" := by
  have hbraces := hplain.braces clause hclause hkind
  refine ⟨h.edits.built.trans (hplain.clause clause hclause hkind), fun d hd hdkind => ?_⟩
  cases h with
  | @braces i hi h =>
    obtain ⟨named, named', hnamed, hfilled, hchildren⟩ := h.child
    rw [hchildren] at hd
    rcases List.mem_or_eq_of_mem_set hd with hd | rfl
    · exact hbraces d hd hdkind
    · obtain ⟨hbuilt, brace, rest, hnamed', hbrace⟩ := hbraces named (List.mem_of_getElem? hnamed)
        (hfilled.edits.kind ▸ hdkind)
      refine ⟨hfilled.edits.built.trans hbuilt, brace, ?_⟩
      cases hfilled with
      | @joined last hlast h =>
        rw [h.children, hnamed', List.take_succ_cons, List.drop_succ_cons, List.cons_append]
        exact ⟨_, rfl, hbrace⟩
      | alone hlast h =>
        rw [h.children_of_append [brace] hnamed' rfl]
        exact ⟨_, rfl, hbrace⟩
  | beside hi hkinds hdefault h =>
    rcases h.eq_or_mem hd with rfl | hd
    · exact absurd hdkind (by decide : "synthetic" ≠ "named_imports")
    · exact hbraces d hd hdkind

theorem Extended.sameHead (h : Extended name s s') : SameHead source s s' where
  kind := h.edits.kind
  origin := sourceOf?_extended h
  value := isTypeOnly_extended h
  specifiers := specifiers_extended h
  braces := by
    rcases namedImports?_extended h with ⟨hnone, hnone'⟩ | ⟨named, named', hsome, hsome', -⟩
    · rw [hnone, hnone']
    · rw [hsome, hsome']
      rfl
  plain hplain := by
    obtain ⟨j, hj, h⟩ := h
    obtain ⟨clause, clause', hclause, hwidened, hchildren⟩ := h.child
    obtain ⟨c, hc, hkind, -⟩ := kind_of_indexOfKind? hj
    obtain rfl : c = clause := Option.some.inj (hc.symm.trans hclause)
    obtain ⟨hbuilt, hbraces⟩ := hplain.of_widened (List.mem_of_getElem? hc) hkind hwidened
    constructor
    · intro d hd hdkind
      rw [hchildren] at hd
      rcases List.mem_or_eq_of_mem_set hd with hd | rfl
      · exact hplain.clause d hd hdkind
      · exact hbuilt
    · intro d hd hdkind
      rw [hchildren] at hd
      rcases List.mem_or_eq_of_mem_set hd with hd | rfl
      · exact hplain.braces d hd hdkind
      · exact hbraces

theorem Extended.importsBy (h : Extended name s s') (hkind : s.kind = "import_statement")
    (horigin : sourceOf? source s = .ok (some module)) (hvalue : isTypeOnly s = false)
    (hplain : IsPlain s) : ImportsBy source name module s' name where
  kind := h.edits.kind.trans hkind
  origin := (sourceOf?_extended h).trans horigin
  value := (isTypeOnly_extended h).trans hvalue
  clause := by
    obtain ⟨clause, clause', hclause, hckind, hwidened, -, hfirst', -⟩ := h.exists_clause
    obtain ⟨hmem', hkind'⟩ := childOfKind?_mem hfirst'
    refine ⟨clause', hmem', hkind', hwidened.gives fun d hd hdkind => ?_⟩
    exact (hplain.braces clause hclause hckind d hd hdkind).2

theorem Extended.keeps (h : Extended name s s') (hother : other ≠ name)
    (hspec : (namedImports? s).isSome = true → specifiers s ≠ [])
    (himports : ImportsBy source other module s shown) : ImportsBy source other module s' shown where
  kind := h.edits.kind.trans himports.kind
  origin := (sourceOf?_extended h).trans himports.origin
  value := (isTypeOnly_extended h).trans himports.value
  clause := by
    obtain ⟨clause, clause', -, hckind, hwidened, hfirst, hfirst', hkept⟩ := h.exists_clause
    obtain ⟨hmem', hkind'⟩ := childOfKind?_mem hfirst'
    obtain ⟨d, hd, hdkind, hgives⟩ := himports.clause
    rcases hkept d hd with rfl | hd
    · refine ⟨clause', hmem', hkind', hwidened.keeps hother (fun named hnamed => ?_) hgives⟩
      have hbraces : namedImports? s = some named := by
        rw [namedImports?, hfirst, Option.bind_some, hnamed]
      have hne := hspec (by rw [hbraces]; rfl)
      rw [specifiers, hbraces, Option.map_some, Option.getD_some] at hne
      obtain ⟨c, hc⟩ := List.exists_mem_of_ne_nil _ hne
      obtain ⟨hc, hckind⟩ := List.mem_filter.1 hc
      exact ⟨c, (List.mem_filter.1 hc).1, by simpa using hckind⟩
    · exact ⟨d, hd, hdkind, hgives⟩

end Statements

end Header

end Phrasebook
