import Phrasebook.Proofs.Wrap.Extension

/-! Making a module import a name. Either a specifier of the name is found, and the module stays as it is,
or an import of values from its source takes up the name, or a new statement does. -/

namespace Phrasebook

open Node

namespace Header

structure IsImport (source : Bytes) (module : Text) (s : Node) : Prop where
  kind : s.kind = "import_statement"
  origin : sourceOf? source s = .ok (some module)
  value : isTypeOnly s = false

/-- A module that was made to import a name: it did already, one of its imports was extended, or a
statement was put in. -/
inductive Ensures (source : Bytes) (name module : Text) (root : Node) : Node → Prop
  | present {s spec : Node} (hs : s ∈ root.children) (himport : IsImport source module s)
      (hspec : spec ∈ specifiers s) (hname : exportsName source name spec = true) :
      Ensures source name module root root
  | extended {k : Nat} {root' : Node}
      (h : Within k (fun s s' => IsImport source module s ∧ Extended name s s') root root') :
      Ensures source name module root root'
  | created {k : Nat} {t : Text} {root' : Node}
      (ht : t = "\n" ++ importStatement name module ∨ t = importStatement name module ++ "\n")
      (h : Gains k t root root') : Ensures source name module root root'

/-- A program as a parser delivers it, apart from what a pass puts into it. -/
structure IsProgram (root : Node) : Prop where
  isChild : root.isChild = true
  built : root.info.built = false
  plain : ∀ s ∈ root.children, s.kind = "import_statement" → s.info.built = false ∧ IsPlain s

section Modules

variable {source : Bytes} {name other module origin shown : Text} {root root' : Node}

theorem mem_importsFrom {module : Word} {statements : List (Nat × Node)} {k : Nat} {s : Node}
    (h : importsFrom source root module = .ok statements) (hs : (k, s) ∈ statements) :
    root.children[k]? = some s ∧ s.kind = "import_statement" ∧
      ∃ origin, sourceOf? source s = .ok origin ∧ module.agrees origin = true := by
  obtain ⟨hsub, hp⟩ := sublist_of_filterM h
  replace hp := hp _ hs
  have hmem := hsub.subset hs
  obtain ⟨⟨n, j⟩, hj, hn⟩ := List.mem_map.1 hmem
  obtain ⟨rfl, rfl⟩ := Prod.mk.inj hn
  refine ⟨List.mem_zipIdx_iff_getElem?.1 hj, ?_⟩
  dsimp only at hp
  split at hp
  next hkind =>
    obtain ⟨origin, horigin, hagrees⟩ := except_map_eq_ok.1 hp
    exact ⟨by simpa using hkind, origin, horigin, hagrees⟩
  next => cases hp

theorem isImport_of_mem {statements : List (Nat × Node)} {k : Nat} {s : Node}
    (h : importsFrom source root (.text module) = .ok statements) (hs : (k, s) ∈ statements)
    (hvalue : isTypeOnly s = false) : root.children[k]? = some s ∧ IsImport source module s := by
  obtain ⟨hk, hkind, origin, horigin, hagrees⟩ := mem_importsFrom h hs
  refine ⟨hk, hkind, ?_, hvalue⟩
  cases origin with
  | none => simp [Word.agrees] at hagrees
  | some t =>
    have : module = t := by simpa [Word.agrees] using hagrees
    rw [horigin, this]

theorem exists_of_hasImport (h : hasImport source root (.text name) (.text module) = .ok true) :
    ∃ s ∈ root.children, IsImport source module s ∧
      ∃ spec ∈ specifiers s, exportsName source name spec = true := by
  obtain ⟨statements, hstatements, h⟩ := except_bind_eq_ok.1 h
  have hany := Except.ok.inj h
  obtain ⟨⟨k, s⟩, hs, hfound⟩ := List.any_eq_true.1 hany
  obtain ⟨hvalue, hnamed⟩ := Bool.and_eq_true_iff.1 hfound
  obtain ⟨hk, himport⟩ := isImport_of_mem hstatements hs (by simpa using hvalue)
  refine ⟨s, List.mem_of_getElem? hk, himport, ?_⟩
  obtain ⟨named, hbraces, hexported⟩ := Option.any_eq_true _ _ |>.1 hnamed
  obtain ⟨t, ht, hnames⟩ := List.any_eq_true.1 hexported
  obtain ⟨spec, hspec, hshown⟩ := List.mem_filterMap.1 ht
  split at hshown
  next hkind =>
    obtain ⟨c, hc, rfl⟩ := Option.map_eq_some_iff.1 hshown
    refine ⟨spec, ?_, ?_⟩
    · rw [specifiers, hbraces]
      exact List.mem_filter.2 ⟨hspec, hkind⟩
    · rw [exportsName, hc]
      exact hnames
  next => cases hshown

theorem not_exports_of_hasImport (h : hasImport source root (.text name) (.text module) = .ok false)
    {s spec : Node} (hs : s ∈ root.children) (himport : IsImport source module s)
    (hspec : spec ∈ specifiers s) : exportsName source name spec = false := by
  obtain ⟨statements, hstatements, h⟩ := except_bind_eq_ok.1 h
  have hnone := List.any_eq_false.1 (Except.ok.inj h)
  obtain ⟨k, hk⟩ := List.mem_iff_getElem?.1 hs
  have hlisted : (k, s) ∈ statements := by
    refine mem_of_filterM ?_ hstatements
      (List.mem_map.2 ⟨(s, k), List.mem_zipIdx_iff_getElem?.2 hk, rfl⟩)
    simp [himport.kind, himport.origin, Except.map, Word.agrees]
  cases hbraces : namedImports? s with
  | none => simp [specifiers, hbraces] at hspec
  | some named =>
    rw [specifiers, hbraces, Option.map_some, Option.getD_some] at hspec
    obtain ⟨hmem, hkind⟩ := List.mem_filter.1 hspec
    have hnames : ¬ (exportedNames source named).any (Word.text name).names = true := by
      simpa [himport.value, hbraces] using hnone _ hlisted
    by_contra hexports
    obtain ⟨c, hc, hcname⟩ := Option.any_eq_true _ _ |>.1 (Bool.not_eq_false _ ▸ hexports)
    refine hnames (List.any_eq_true.2 ⟨c.textD source, List.mem_filterMap.2 ⟨spec, hmem, ?_⟩, hcname⟩)
    rw [if_pos hkind, hc, Option.map_some]

theorem isChild_of_getElem? {n c : Node} {k : Nat} (h : n.children[k]? = some c) :
    c.isChild = true := (List.mem_filter.1 (List.mem_of_getElem? h)).2

theorem gainsAt_apply (path : Path) {k : Nat} {m : Node} (t note : Text)
    (hat : root.at? path = some m) (hchild : m.isChild = true) (hbuilt : m.info.built = false)
    (hk : k ≤ m.children.length) :
    GainsAt k t path root ((Insertion.mk path k t note).apply root) := by
  obtain ⟨root', hroot', hgains⟩ := gainsAt_of_at? t hat hchild hbuilt hk
  rw [Insertion.apply, hroot']
  exact hgains

/-- The ways to add a name to an import of values: behind the last specifier in its braces, into braces
without one, or in braces behind a default import. -/
theorem cases_of_extension? {k : Nat} {s : Node} {insertion : Insertion}
    (h : extension? name module k s = some insertion) : isTypeOnly s = false ∧ ∃ j clause,
      indexOfKind? s "import_clause" = some j ∧ s.children[j]? = some clause ∧
      clause.kind = "import_clause" ∧
      ((∃ i named, indexOfKind? clause "named_imports" = some i ∧ clause.children[i]? = some named ∧
        named.kind = "named_imports" ∧ insertion.path = [k, j, i] ∧
        ((∃ last, lastOfKind? named "import_specifier" = some last ∧ insertion.index = last + 1 ∧
            insertion.text = joiner name) ∨
          lastOfKind? named "import_specifier" = none ∧ insertion.index = 1 ∧
            insertion.text = lone name)) ∨
      ∃ i, indexOfKind? clause "named_imports" = none ∧
        clause.namedChildren.map (·.kind) = ["identifier"] ∧
        clause.children.findIdx? Node.named = some i ∧ insertion.path = [k, j] ∧
        insertion.index = i + 1 ∧ insertion.text = besides name) := by
  unfold extension? at h
  split at h
  next => cases h
  next hvalue =>
  obtain ⟨j, hj, h⟩ := Option.bind_eq_some_iff.1 h
  obtain ⟨clause, hclause, h⟩ := Option.bind_eq_some_iff.1 h
  obtain ⟨c, hc, hkind, -⟩ := kind_of_indexOfKind? hj
  obtain rfl : c = clause := Option.some.inj (hc.symm.trans hclause)
  refine ⟨by simpa using hvalue, j, c, hj, hc, hkind, ?_⟩
  dsimp only at h
  split at h
  next i hi =>
    obtain ⟨named, hnamed, h⟩ := Option.bind_eq_some_iff.1 h
    obtain ⟨d, hd, hdkind, -⟩ := kind_of_indexOfKind? hi
    obtain rfl : d = named := Option.some.inj (hd.symm.trans hnamed)
    split at h
    next last hlast =>
      cases h
      exact .inl ⟨i, d, hi, hd, hdkind, rfl, .inl ⟨last, hlast, rfl, rfl⟩⟩
    next hlast =>
      cases h
      exact .inl ⟨i, d, hi, hd, hdkind, rfl, .inr ⟨hlast, rfl, rfl⟩⟩
  next hi =>
    split at h
    next i hkinds hdefault =>
      cases h
      exact .inr ⟨i, hi, hkinds, hdefault, rfl, rfl, rfl⟩
    next => cases h

theorem path_of_extension? {k : Nat} {s : Node} {insertion : Insertion}
    (h : extension? name module k s = some insertion) : ∃ j clause more,
      insertion.path = k :: j :: more ∧ s.children[j]? = some clause ∧ clause.kind = "import_clause" := by
  obtain ⟨-, j, clause, -, hclause, hkind, ⟨i, named, -, -, -, hpath, -⟩ | ⟨i, -, -, -, hpath, -⟩⟩ :=
    cases_of_extension? h
  · exact ⟨j, clause, [i], hpath, hclause, hkind⟩
  · exact ⟨j, clause, [], hpath, hclause, hkind⟩

theorem extended_of_extension? {k : Nat} {s : Node} {insertion : Insertion} (hplain : IsPlain s)
    (hk : root.children[k]? = some s) (h : extension? name module k s = some insertion) :
    Within k (Extended name) root (insertion.apply root) := by
  obtain ⟨path, index, t, note⟩ := insertion
  obtain ⟨-, j, c, hj, hc, hckind, h⟩ := cases_of_extension? h
  have hcmem := List.mem_of_getElem? hc
  -- Whatever the clause becomes, the statement is extended by it.
  have hextend {R : Node → Node → Prop} (hR : ∀ c', R c c' → Widened name c c')
      (hwithin : Within k (Within j R) root ((Insertion.mk path index t note).apply root)) :
      Within k (Extended name) root ((Insertion.mk path index t note).apply root) :=
    hwithin.of_child hk fun s' hs' => ⟨j, hj, hs'.of_child hc hR⟩
  rcases h with ⟨i, d, hi, hd, hdkind, rfl, hplace⟩ | ⟨i, hi, hkinds, hdefault, rfl, rfl, rfl⟩
  · obtain ⟨hbuilt, brace, rest, hopen, -⟩ := hplain.braces c hcmem hckind d (List.mem_of_getElem? hd)
      hdkind
    have hat : root.at? [k, j, i] = some d := by simp [at?, hk, hc, hd]
    have hchild := isChild_of_getElem? hd
    rcases hplace with ⟨last, hlast, rfl, rfl⟩ | ⟨hlast, rfl, rfl⟩
    · obtain ⟨past, e, after, hsplit, hlength, -⟩ := split_of_lastOfKind? hlast
      have hle : last + 1 ≤ d.children.length := by
        rw [hsplit, List.length_append, List.length_cons]
        omega
      refine hextend (fun c' hc' => ?_) (gainsAt_apply [k, j, i] (joiner name) _ hat hchild hbuilt hle)
      exact .braces hi (Within.of_child hc' hd fun d' hd' => .joined hlast hd')
    · have hle : 1 ≤ d.children.length := by
        rw [hopen, List.length_cons]
        omega
      refine hextend (fun c' hc' => ?_) (gainsAt_apply [k, j, i] (lone name) _ hat hchild hbuilt hle)
      exact .braces hi (Within.of_child hc' hd fun d' hd' => .alone hlast hd')
  · obtain ⟨hlt, -⟩ := List.findIdx?_eq_some_iff_getElem.1 hdefault
    have hat : root.at? [k, j] = some c := by simp [at?, hk, hc]
    refine hextend (fun c' hc' => .beside hi hkinds hdefault hc') (gainsAt_apply [k, j] (besides name) _
      hat (isChild_of_getElem? hc) (hplain.clause c hcmem hckind) hlt)

theorem within_of_extension? {k : Nat} {s : Node} {insertion : Insertion} (hroot : IsProgram root)
    (hk : root.children[k]? = some s) (himport : IsImport source module s)
    (h : extension? name module k s = some insertion) :
    Within k (fun s s' => IsImport source module s ∧ Extended name s s') root
      (insertion.apply root) :=
  (extended_of_extension? (hroot.plain s (List.mem_of_getElem? hk) himport.kind).2 hk h).of_child hk
    fun _ hs' => ⟨himport, hs'⟩

theorem lt_of_mem_prologueFrom {k j : Nat} {n : Node} {items : List Node}
    (h : (j, n) ∈ prologueFrom k items) : j < k + items.length := by
  induction items generalizing k with
  | nil => simp [prologueFrom] at h
  | cons m rest ih =>
    rw [prologueFrom] at h
    rw [List.length_cons]
    split at h
    next =>
      rcases List.mem_cons.1 h with h | h
      · obtain ⟨rfl, -⟩ := Prod.mk.inj h
        omega
      · have := ih h
        omega
    next =>
      split at h
      next =>
        have := ih h
        omega
      next => simp at h

theorem gains_statementInsertion (hroot : IsProgram root) (lead : List (Nat × Node))
    (t note : Text) (hlead : ∀ j n, (j, n) ∈ lead → j < root.children.length) :
    ∃ k text, (text = "\n" ++ t ∨ text = t ++ "\n") ∧
      Gains k text root ((statementInsertion lead t note).apply root) := by
  rw [statementInsertion]
  cases hlast : lead.getLast? with
  | some last =>
    obtain ⟨j, n⟩ := last
    have hlt := hlead j n (List.mem_of_getLast? hlast)
    exact ⟨_, _, .inl rfl, gainsAt_apply [] _ note rfl hroot.isChild hroot.built hlt⟩
  | none =>
    exact ⟨_, _, .inr rfl,
      gainsAt_apply [] _ note rfl hroot.isChild hroot.built (Nat.zero_le _)⟩

theorem ensures_of_ensureImport {added : Bool} (hroot : IsProgram root)
    (h : (ensureImport source (.text name) (.text module) root).result = .ok (root', added)) :
    Ensures source name module root root' ∧ (added = false → root' = root ∧
      ∃ s ∈ root.children, IsImport source module s ∧
        ∃ spec ∈ specifiers s, exportsName source name spec = true) := by
  unfold ensureImport at h
  obtain ⟨insertion?, hinsertion, h⟩ := Logged.result_bind_eq_ok.1 h
  unfold importInsertion? at hinsertion
  obtain ⟨found, hfound, hinsertion⟩ := except_bind_eq_ok.1 hinsertion
  cases found with
  | true =>
    cases hinsertion
    cases h
    have hpresent := exists_of_hasImport hfound
    obtain ⟨s, hs, himport, spec, hspec, hname⟩ := hpresent
    exact ⟨.present hs himport hspec hname, fun _ => ⟨rfl, s, hs, himport, spec, hspec, hname⟩⟩
  | false =>
    obtain ⟨statements, hstatements, hinsertion⟩ := except_bind_eq_ok.1 hinsertion
    dsimp only [Word.spelling] at hinsertion
    split at hinsertion
    next insertion hextension =>
      cases hinsertion
      obtain ⟨-, -, h⟩ := Logged.result_bind_eq_ok.1 h
      cases h
      obtain ⟨⟨k, s⟩, hs, hinsertion⟩ := List.exists_of_findSome?_eq_some hextension
      have hvalue : isTypeOnly s = false := by
        cases hvalue : isTypeOnly s with
        | false => rfl
        | true =>
          dsimp only at hinsertion
          rw [extension?, if_pos hvalue] at hinsertion
          cases hinsertion
      obtain ⟨hk, himport⟩ := isImport_of_mem hstatements hs hvalue
      exact ⟨.extended (within_of_extension? hroot hk himport hinsertion), fun h => by cases h⟩
    next =>
      cases hinsertion
      obtain ⟨-, -, h⟩ := Logged.result_bind_eq_ok.1 h
      cases h
      obtain ⟨k, t, ht, hgains⟩ := gains_statementInsertion hroot (prologue root)
        (importStatement name module) ("Inserted import of " ++ name ++ " from " ++ module)
        fun j n hj => by
          have := lt_of_mem_prologueFrom hj
          omega
      exact ⟨.created ht hgains, fun h => by cases h⟩

/-- Every import statement of a module is one of another module, apart from what was put into it. -/
def Follows (source : Bytes) (root root' : Node) : Prop :=
  ∀ s' ∈ root'.children, s'.kind = "import_statement" → ∃ s ∈ root.children, SameHead source s s'

theorem Follows.refl (root : Node) : Follows source root root := fun s hs _ => ⟨s, hs, .refl s⟩

theorem Follows.trans {root'' : Node} (h : Follows source root root')
    (h' : Follows source root' root'') : Follows source root root'' := by
  intro s'' hs'' hkind
  obtain ⟨s', hs', hhead'⟩ := h' s'' hs'' hkind
  obtain ⟨s, hs, hhead⟩ := h s' hs' (hhead'.kind ▸ hkind)
  exact ⟨s, hs, hhead.trans hhead'⟩

theorem follows_of_gains {k : Nat} {t : Text} (h : Gains k t root root') :
    Follows source root root' := by
  intro s hs hkind
  rcases h.eq_or_mem hs with rfl | hs
  · exact absurd hkind (by decide : "synthetic" ≠ "import_statement")
  · exact ⟨s, hs, .refl s⟩

theorem Ensures.follows (h : Ensures source name module root root') : Follows source root root' := by
  cases h with
  | present => exact .refl root
  | extended h =>
    obtain ⟨s, s', hs, ⟨-, hextended⟩, hchildren⟩ := h.child
    intro d hd hkind
    rw [hchildren] at hd
    rcases List.mem_or_eq_of_mem_set hd with hd | rfl
    · exact ⟨d, hd, .refl d⟩
    · exact ⟨s, List.mem_of_getElem? hs, hextended.sameHead⟩
  | created _ h => exact follows_of_gains h

theorem IsProgram.of_gains (hroot : IsProgram root) {k : Nat} {t : Text} (h : Gains k t root root') :
    IsProgram root' where
  isChild := h.edits.isChild.trans hroot.isChild
  built := h.edits.built.trans hroot.built
  plain := by
    intro s hs hkind
    rcases h.eq_or_mem hs with rfl | hs
    · exact absurd hkind (by decide : "synthetic" ≠ "import_statement")
    · exact hroot.plain s hs hkind

theorem IsProgram.of_extended (hroot : IsProgram root) {k : Nat}
    (h : Within k (fun s s' => s.kind = "import_statement" ∧ Extended name s s') root root') :
    IsProgram root' := by
  obtain ⟨s, s', hs, ⟨hskind, hextended⟩, hchildren⟩ := h.child
  refine ⟨h.edits.isChild.trans hroot.isChild, h.edits.built.trans hroot.built, fun d hd hkind => ?_⟩
  rw [hchildren] at hd
  rcases List.mem_or_eq_of_mem_set hd with hd | rfl
  · exact hroot.plain d hd hkind
  · obtain ⟨hbuilt, hplain⟩ := hroot.plain s (List.mem_of_getElem? hs) hskind
    have hhead : SameHead [] s d := hextended.sameHead
    exact ⟨hextended.edits.built.trans hbuilt, hhead.plain hplain⟩

theorem IsProgram.of_ensures (hroot : IsProgram root) (h : Ensures source name module root root') :
    IsProgram root' := by
  cases h with
  | present => exact hroot
  | created _ h => exact hroot.of_gains h
  | extended h =>
    obtain ⟨s, s', hs, ⟨himport, -⟩, -⟩ := h.child
    exact hroot.of_extended (h.of_child hs fun _ hs' => ⟨himport.kind, hs'.2⟩)

end Modules

end Header

end Phrasebook
