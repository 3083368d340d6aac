import Phrasebook.Proofs.Literal.Verbatim
import Phrasebook.Proofs.Wrap.Imports

/-! Import clauses read as lists. The tokens of a clause, those of the texts that were put into it among
them, are read as the language reads them: one pair of braces, and in it the specifiers with commas
between them. -/

namespace Phrasebook

open Node

namespace Header

/-- What brings in a name: a specifier of the source, or a name that was put in. -/
inductive Entry
  | old (spec : Node)
  | new (name : Text)

def Entry.old? : Entry → Option Node
  | old spec => some spec
  | new _ => none

def Entry.new? : Entry → Option Text
  | old _ => none
  | new name => some name

/-- A token of an import clause; a default import and an import of all names count as one. -/
inductive Token
  | opening
  | closing
  | comma
  | entry (e : Entry)
  | whole

def mark? (c : CodePoint) : Option Token :=
  if c = CodePoint.ofChar '\x7b' then some .opening
  else if c = CodePoint.ofChar '\x7d' then some .closing
  else if c = CodePoint.ofChar ',' then some .comma
  else none

def wordToken : Text → List Token
  | [] => []
  | c :: rest => [.entry (.new (c :: rest))]

/-- The tokens of a text behind a part of a word: marks, and words between marks and blanks. -/
def tokensFrom : Text → Text → List Token
  | word, [] => wordToken word
  | word, c :: rest =>
    match mark? c with
    | some token => wordToken word ++ token :: tokensFrom [] rest
    | none => if c.isBlank then wordToken word ++ tokensFrom [] rest else tokensFrom (word ++ [c]) rest

/-- The tokens of a node in a clause: a built one has those of its texts, and a comment none. -/
def tokensOf (n : Node) : List Token :=
  if n.info.built then n.items.flatMap fun
    | .text t => tokensFrom [] t
    | .branch _ _ => [.whole]
  else if n.kind == "comment" then []
  else if n.kind == "import_specifier" then [.entry (.old n)]
  else if n.named then [.whole]
  else tokensFrom [] n.kind

def partTokens (n : Node) : List Token :=
  if n.kind == "named_imports" then n.children.flatMap tokensOf else tokensOf n

def clauseTokens (clause : Node) : List Token := clause.children.flatMap partTokens

/-- The entries up to a closing brace, with commas between them and perhaps one behind the last. -/
def entriesFrom? : List Token → Option (List Entry)
  | [.closing] => some []
  | [.entry e, .closing] => some [e]
  | .entry e :: .comma :: rest => (entriesFrom? rest).map (e :: ·)
  | _ => none

def bracedEntries? : List Token → Option (List Entry)
  | .opening :: rest => entriesFrom? rest
  | _ => none

/-- The entries that the tokens of a clause list: those in its one pair of braces, which may stand
behind a default import. -/
inductive Lists : List Token → List Entry → Prop
  | whole : Lists [.whole] []
  | wholes : Lists [.whole, .comma, .whole] []
  | braces {tokens : List Token} {es : List Entry} (h : bracedEntries? tokens = some es) : Lists tokens es
  | beside {tokens : List Token} {es : List Entry} (h : bracedEntries? tokens = some es) :
      Lists (.whole :: .comma :: tokens) es

def isList : List Token → Bool
  | [.whole] => true
  | [.whole, .comma, .whole] => true
  | .whole :: .comma :: rest => (bracedEntries? rest).isSome
  | tokens => (bracedEntries? tokens).isSome

theorem isList_iff {tokens : List Token} : isList tokens = true ↔ ∃ es, Lists tokens es := by
  constructor
  · intro h
    unfold isList at h
    split at h
    next => exact ⟨[], .whole⟩
    next => exact ⟨[], .wholes⟩
    next =>
      obtain ⟨es, hes⟩ := Option.isSome_iff_exists.1 h
      exact ⟨es, .beside hes⟩
    next =>
      obtain ⟨es, hes⟩ := Option.isSome_iff_exists.1 h
      exact ⟨es, .braces hes⟩
  · rintro ⟨es, h⟩
    cases h with
    | whole => rfl
    | wholes => rfl
    | braces h =>
      unfold isList
      split
      next => rfl
      next => rfl
      next => cases h
      next => rw [h]; rfl
    | beside h =>
      unfold isList
      split
      next => rfl
      next => rfl
      next heq =>
        obtain ⟨-, rfl⟩ := List.cons.inj (List.cons.inj heq).2
        rw [h]
        rfl
      next hne => exact (hne _ rfl).elim

/-- A name that is one word of an import clause. -/
structure IsWord (name : Text) : Prop where
  nonempty : name ≠ []
  plain : ∀ c ∈ name, c.isBlank = false ∧ c ≠ CodePoint.ofChar '\x7b' ∧ c ≠ CodePoint.ofChar '\x7d' ∧
    c ≠ CodePoint.ofChar ','

section Tokens

variable {name word rest : Text}

theorem tokensFrom_append (hname : ∀ c ∈ name, c.isBlank = false ∧ c ≠ CodePoint.ofChar '\x7b' ∧
    c ≠ CodePoint.ofChar '\x7d' ∧ c ≠ CodePoint.ofChar ',') (word rest : Text) :
    tokensFrom word (name ++ rest) = tokensFrom (word ++ name) rest := by
  induction name generalizing word with
  | nil => rw [List.nil_append, List.append_nil]
  | cons c name ih =>
    obtain ⟨⟨hblank, hopening, hclosing, hcomma⟩, hname⟩ := List.forall_mem_cons.1 hname
    have hmark : mark? c = none := by
      rw [mark?, if_neg hopening, if_neg hclosing, if_neg hcomma]
    rw [List.cons_append, tokensFrom, hmark]
    dsimp only
    rw [hblank, if_neg Bool.false_ne_true, ih hname, List.append_assoc, List.singleton_append]

theorem IsWord.token (h : IsWord name) : wordToken name = [.entry (.new name)] := by
  obtain ⟨c, rest, rfl⟩ := List.exists_cons_of_ne_nil h.nonempty
  rfl

theorem IsWord.tokensFrom_blank (h : IsWord name) (rest : Text) :
    tokensFrom [] (name ++ CodePoint.ofChar ' ' :: rest) = .entry (.new name) :: tokensFrom [] rest := by
  rw [tokensFrom_append h.plain, List.nil_append, tokensFrom.eq_2, h.token]
  rfl

theorem tokensOf_leaf (t : Text) : tokensOf (leaf t) = tokensFrom [] t := by
  simp [tokensOf, leaf, build, info, items, mapInfo]

theorem tokensOf_joiner (h : IsWord name) :
    tokensOf (leaf (joiner name)) = [.comma, .entry (.new name)] := by
  have hname : tokensFrom [] name = [.entry (.new name)] := by
    have happend := tokensFrom_append h.plain [] []
    rw [List.append_nil, List.nil_append] at happend
    exact happend.trans h.token
  rw [tokensOf_leaf, ← hname]
  rfl

theorem tokensOf_lone (h : IsWord name) : tokensOf (leaf (lone name)) = [.entry (.new name)] := by
  rw [tokensOf_leaf]
  exact h.tokensFrom_blank []

theorem tokensOf_besides (h : IsWord name) :
    tokensOf (leaf (besides name)) = [.comma, .opening, .entry (.new name), .closing] := by
  have hname := h.tokensFrom_blank "\x7d"
  rw [tokensOf_leaf]
  show .comma :: .opening :: tokensFrom [] (name ++ CodePoint.ofChar ' ' :: Text.ofString "\x7d") = _
  rw [hname]
  rfl

end Tokens

section Lists

variable {es : List Entry} {a b : Entry}

theorem entriesFrom?_behind {y : List Token} (h : entriesFrom? (.entry a :: y) = some es) (b : Entry) :
    ∃ more, es = a :: more ∧ entriesFrom? (.entry a :: .comma :: .entry b :: y) = some (a :: b :: more) := by
  unfold entriesFrom? at h
  split at h
  next heq => cases heq
  next e heq =>
    cases heq
    cases h
    exact ⟨[], rfl, rfl⟩
  next e rest heq =>
    cases heq
    obtain ⟨more, hmore, rfl⟩ := Option.map_eq_some_iff.1 h
    refine ⟨more, rfl, ?_⟩
    rw [entriesFrom?, entriesFrom?, hmore]
    rfl
  next => cases h

theorem entriesFrom?_insert : ∀ {x y : List Token} {es : List Entry},
    entriesFrom? (x ++ .entry a :: y) = some es → ∃ front more, es = front ++ a :: more ∧
      entriesFrom? (x ++ .entry a :: .comma :: .entry b :: y) = some (front ++ a :: b :: more)
  | [], y, es, h => by
    obtain ⟨more, rfl, hnew⟩ := entriesFrom?_behind h b
    exact ⟨[], more, rfl, hnew⟩
  | [.entry e], y, es, h => by simp [entriesFrom?] at h
  | .entry e :: .comma :: x, y, es, h => by
    rw [List.cons_append, List.cons_append, entriesFrom?] at h
    obtain ⟨rest, hrest, rfl⟩ := Option.map_eq_some_iff.1 h
    obtain ⟨front, more, rfl, hnew⟩ := entriesFrom?_insert hrest
    refine ⟨e :: front, more, rfl, ?_⟩
    rw [List.cons_append, List.cons_append, entriesFrom?, hnew]
    rfl
  | .opening :: x, y, es, h => by simp [entriesFrom?] at h
  | .closing :: x, y, es, h => by cases x <;> simp [entriesFrom?] at h
  | .comma :: x, y, es, h => by simp [entriesFrom?] at h
  | .whole :: x, y, es, h => by simp [entriesFrom?] at h
  | .entry e :: .opening :: x, y, es, h => by simp [entriesFrom?] at h
  | .entry e :: .closing :: x, y, es, h => by cases x <;> simp [entriesFrom?] at h
  | .entry e :: .whole :: x, y, es, h => by simp [entriesFrom?] at h
  | .entry e :: .entry e' :: x, y, es, h => by simp [entriesFrom?] at h

theorem bracedEntries?_insert {x y : List Token}
    (h : bracedEntries? (x ++ .entry a :: y) = some es) : ∃ front more, es = front ++ a :: more ∧
      bracedEntries? (x ++ .entry a :: .comma :: .entry b :: y) = some (front ++ a :: b :: more) := by
  cases x with
  | nil => cases h
  | cons token x =>
    cases token with
    | opening => exact entriesFrom?_insert h
    | closing => cases h
    | comma => cases h
    | entry e => cases h
    | whole => cases h

theorem Lists.insert {x y : List Token} (h : Lists (x ++ .entry a :: y) es) (b : Entry) :
    ∃ front more, es = front ++ a :: more ∧
      Lists (x ++ .entry a :: .comma :: .entry b :: y) (front ++ a :: b :: more) := by
  have hmem : Token.entry a ∈ x ++ .entry a :: y := List.mem_append_right _ List.mem_cons_self
  generalize htokens : x ++ .entry a :: y = tokens at h hmem
  cases h with
  | whole => simp at hmem
  | wholes => simp at hmem
  | braces h =>
    subst htokens
    obtain ⟨front, more, hes, hnew⟩ := bracedEntries?_insert (b := b) h
    exact ⟨front, more, hes, .braces hnew⟩
  | @beside tokens _ h =>
    match x, htokens with
    | .whole :: .comma :: x, htokens =>
      obtain rfl : x ++ .entry a :: y = tokens := (List.cons.inj (List.cons.inj htokens).2).2
      obtain ⟨front, more, hes, hnew⟩ := bracedEntries?_insert (b := b) h
      exact ⟨front, more, hes, .beside hnew⟩

theorem bracedEntries?_alone {y : List Token} (h : bracedEntries? (.opening :: y) = some []) (b : Entry) :
    bracedEntries? (.opening :: .entry b :: y) = some [b] := by
  rw [bracedEntries?] at h ⊢
  unfold entriesFrom? at h
  split at h
  next => rfl
  next => cases h
  next =>
    obtain ⟨more, -, hmore⟩ := Option.map_eq_some_iff.1 h
    cases hmore
  next => cases h

theorem entriesFrom?_opening : ∀ {x y : List Token}, entriesFrom? (x ++ .opening :: y) = none
  | [], y => rfl
  | .entry e :: .comma :: x, y => by
    rw [List.cons_append, List.cons_append, entriesFrom?, entriesFrom?_opening]
    rfl
  | [.entry e], y => rfl
  | [.closing], y => rfl
  | .closing :: t :: x, y => rfl
  | .opening :: x, y => rfl
  | .comma :: x, y => rfl
  | .whole :: x, y => rfl
  | .entry e :: .opening :: x, y => rfl
  | [.entry e, .closing], y => rfl
  | .entry e :: .closing :: t :: x, y => rfl
  | .entry e :: .whole :: x, y => rfl
  | .entry e :: .entry e' :: x, y => rfl

theorem eq_nil_of_bracedEntries? {x y : List Token}
    (h : bracedEntries? (x ++ .opening :: y) = some es) : x = [] := by
  cases x with
  | nil => rfl
  | cons token x =>
    cases token with
    | opening =>
      rw [List.cons_append, bracedEntries?, entriesFrom?_opening] at h
      cases h
    | closing => cases h
    | comma => cases h
    | entry e => cases h
    | whole => cases h

theorem Lists.alone {x y : List Token} (h : Lists (x ++ .opening :: y) []) (b : Entry) :
    Lists (x ++ .opening :: .entry b :: y) [b] := by
  have hmem : Token.opening ∈ x ++ .opening :: y := List.mem_append_right _ List.mem_cons_self
  generalize htokens : x ++ .opening :: y = tokens at h hmem
  cases h with
  | whole => simp at hmem
  | wholes => simp at hmem
  | braces h =>
    subst htokens
    obtain rfl := eq_nil_of_bracedEntries? h
    exact .braces (bracedEntries?_alone h b)
  | @beside tokens _ h =>
    match x, htokens with
    | .whole :: .comma :: x, htokens =>
      obtain rfl : x ++ .opening :: y = tokens := (List.cons.inj (List.cons.inj htokens).2).2
      obtain rfl := eq_nil_of_bracedEntries? h
      exact .beside (bracedEntries?_alone h b)

theorem not_lists_pair {x y : List Token} : ¬ Lists (x ++ .opening :: .entry a :: .entry b :: y) es := by
  intro h
  have hmem : Token.opening ∈ x ++ .opening :: .entry a :: .entry b :: y :=
    List.mem_append_right _ List.mem_cons_self
  generalize htokens : x ++ .opening :: .entry a :: .entry b :: y = tokens at h hmem
  cases h with
  | whole => simp at hmem
  | wholes => simp at hmem
  | braces h =>
    subst htokens
    obtain rfl := eq_nil_of_bracedEntries? h
    cases h
  | @beside tokens _ h =>
    match x, htokens with
    | .whole :: .comma :: x, htokens =>
      obtain rfl : x ++ .opening :: .entry a :: .entry b :: y = tokens :=
        (List.cons.inj (List.cons.inj htokens).2).2
      obtain rfl := eq_nil_of_bracedEntries? h
      cases h

theorem bracedEntries?_of_commas {tokens : List Token} (h : ∀ t ∈ tokens, t = .comma) :
    bracedEntries? tokens = none := by
  cases tokens with
  | nil => rfl
  | cons t rest =>
    obtain rfl := h t List.mem_cons_self
    rfl

theorem Lists.eq_whole {x y : List Token} (h : Lists (x ++ .whole :: y) es) (hx : ∀ t ∈ x, t = .comma)
    (hy : ∀ t ∈ y, t = .comma) : x = [] ∧ y = [] ∧ es = [] := by
  have hfirst {t : Token} {rest : List Token} (hne : t ≠ .comma) (h : x ++ .whole :: y = t :: rest) :
      x = [] ∧ y = rest := by
    cases x with
    | nil => exact ⟨rfl, (List.cons.inj h).2⟩
    | cons t' x =>
      obtain ⟨rfl, -⟩ := List.cons.inj h
      exact (hne (hx _ List.mem_cons_self)).elim
  generalize htokens : x ++ .whole :: y = tokens at h
  cases h with
  | whole =>
    obtain ⟨rfl, rfl⟩ := hfirst (by simp) htokens
    exact ⟨rfl, rfl, rfl⟩
  | wholes =>
    obtain ⟨rfl, rfl⟩ := hfirst (by simp) htokens
    exact absurd (hy .whole (by simp)) (by simp)
  | braces h =>
    subst htokens
    cases x with
    | nil => cases h
    | cons t x =>
      obtain rfl := hx t List.mem_cons_self
      cases h
  | beside h =>
    obtain ⟨rfl, rfl⟩ := hfirst (by simp) htokens
    rw [bracedEntries?_of_commas fun t ht => hy t (List.mem_cons_of_mem _ ht)] at h
    cases h

end Lists

/-- A clause as the grammar has it: what is not a name in it is a comma, and the names, marks and
specifiers in it come from the source. -/
structure IsClause (clause : Node) : Prop where
  commas : ∀ c ∈ clause.children, c.named = false → c.kind = "," ∧ c.info.built = false
  default : ∀ c ∈ clause.children, c.kind = "identifier" → c.info.built = false
  braces : ∀ named ∈ clause.children, named.kind = "named_imports" →
    (∃ brace rest, named.children = brace :: rest ∧ brace.kind = "\x7b") ∧
    ∀ c ∈ named.children, (c.kind = "import_specifier" → c.info.built = false) ∧
      (c.kind = "\x7b" → c.info.built = false ∧ c.named = false)

theorem exists_opening_iff {items : List Node} {kind : String} :
    (∃ brace rest, items = brace :: rest ∧ brace.kind = kind) ↔
      items.head?.map (·.kind) = some kind := by
  cases items <;> simp

instance (clause : Node) : Decidable (IsClause clause) :=
  decidable_of_iff
    ((∀ c ∈ clause.children, c.named = false → c.kind = "," ∧ c.info.built = false) ∧
      (∀ c ∈ clause.children, c.kind = "identifier" → c.info.built = false) ∧
      ∀ named ∈ clause.children, named.kind = "named_imports" →
        named.children.head?.map (·.kind) = some "\x7b" ∧
        ∀ c ∈ named.children, (c.kind = "import_specifier" → c.info.built = false) ∧
          (c.kind = "\x7b" → c.info.built = false ∧ c.named = false))
    ⟨fun ⟨hcommas, hdefault, hbraces⟩ => ⟨hcommas, hdefault, fun named hnamed hkind =>
        ⟨exists_opening_iff.2 (hbraces named hnamed hkind).1, (hbraces named hnamed hkind).2⟩⟩,
      fun h => ⟨h.commas, h.default, fun named hnamed hkind =>
        ⟨exists_opening_iff.1 (h.braces named hnamed hkind).1, (h.braces named hnamed hkind).2⟩⟩⟩

section Widening

variable {name : Text} {named named' clause clause' s s' : Node} {es : List Entry}

theorem tokensOf_specifier {c : Node} (hkind : c.kind = "import_specifier") (hbuilt : c.info.built = false) :
    tokensOf c = [.entry (.old c)] := by
  rw [tokensOf, hbuilt, hkind]
  rfl

theorem tokensOf_brace {c : Node} (hkind : c.kind = "\x7b") (hbuilt : c.info.built = false)
    (hnamed : c.named = false) : tokensOf c = [.opening] := by
  rw [tokensOf, hbuilt, hkind, hnamed]
  rfl

theorem IsClause.set (h : IsClause clause) {i : Nat} (hi : clause.children[i]? = some named)
    (hfilled : Filled name named named') (hchildren : clause'.children = clause.children.set i named') :
    IsClause clause' := by
  have hmem : named ∈ clause.children := List.mem_of_getElem? hi
  constructor
  · intro c hc hcnamed
    rw [hchildren] at hc
    obtain hc | rfl := List.mem_or_eq_of_mem_set hc
    · exact h.commas c hc hcnamed
    · rw [hfilled.edits.kind, hfilled.edits.built]
      exact h.commas named hmem (hfilled.edits.named ▸ hcnamed)
  · intro c hc hkind
    rw [hchildren] at hc
    obtain hc | rfl := List.mem_or_eq_of_mem_set hc
    · exact h.default c hc hkind
    · rw [hfilled.edits.built]
      exact h.default named hmem (hfilled.edits.kind ▸ hkind)
  · intro c hc hkind
    rw [hchildren] at hc
    obtain hc | rfl := List.mem_or_eq_of_mem_set hc
    · exact h.braces c hc hkind
    · obtain ⟨⟨brace, rest, hnamed, hbrace⟩, hparts⟩ := h.braces named hmem (hfilled.edits.kind ▸ hkind)
      obtain ⟨k, t, hgains⟩ := hfilled.gains
      refine ⟨⟨brace, ?_⟩, fun d hd => ?_⟩
      · cases hfilled with
        | @joined last hlast h =>
          rw [h.children, hnamed, List.take_succ_cons, List.drop_succ_cons, List.cons_append]
          exact ⟨_, rfl, hbrace⟩
        | alone hlast h =>
          rw [h.children_of_append [brace] hnamed rfl]
          exact ⟨_, rfl, hbrace⟩
      · obtain rfl | hd := hgains.eq_or_mem hd
        · exact ⟨fun hkind => absurd hkind (by decide : "synthetic" ≠ "import_specifier"),
            fun hkind => absurd hkind (by decide : "synthetic" ≠ "\x7b")⟩
        · exact hparts d hd

structure Adds (name : Text) (es es' : List Entry) : Prop where
  olds : es'.filterMap Entry.old? = es.filterMap Entry.old?
  news : (es'.filterMap Entry.new?).Perm (name :: es.filterMap Entry.new?)

theorem adds_behind {front more : List Entry} {spec : Node} :
    Adds name (front ++ .old spec :: more) (front ++ .old spec :: .new name :: more) where
  olds := by simp [List.filterMap_cons, Entry.old?]
  news := by
    simp only [List.filterMap_append, List.filterMap_cons, Entry.new?]
    exact List.perm_middle

theorem Filled.lists {x y : List Token} (hname : IsWord name) (h : Filled name named named')
    (hparts : (∃ brace rest, named.children = brace :: rest ∧ brace.kind = "\x7b") ∧
      ∀ c ∈ named.children, (c.kind = "import_specifier" → c.info.built = false) ∧
        (c.kind = "\x7b" → c.info.built = false ∧ c.named = false))
    (halone : lastOfKind? named "import_specifier" = none → es = [])
    (hes : Lists (x ++ named.children.flatMap tokensOf ++ y) es) :
    ∃ es', Lists (x ++ named'.children.flatMap tokensOf ++ y) es' ∧ Adds name es es' := by
  cases h with
  | @joined last hlast h =>
    obtain ⟨past, spec, after, hsplit, rfl, hkind, -⟩ := split_of_lastOfKind? hlast
    have hspec := tokensOf_specifier hkind ((hparts.2 spec (by rw [hsplit]; simp)).1 hkind)
    have htokens : x ++ named.children.flatMap tokensOf ++ y = (x ++ past.flatMap tokensOf) ++
        .entry (.old spec) :: (after.flatMap tokensOf ++ y) := by
      rw [hsplit]
      simp [hspec]
    rw [htokens] at hes
    obtain ⟨front, more, rfl, hnew⟩ := hes.insert (.new name)
    refine ⟨_, ?_, adds_behind⟩
    rw [List.append_cons] at hsplit
    have hchildren := h.children_of_append _ hsplit (by simp)
    rw [hchildren]
    simpa [hspec, tokensOf_joiner hname] using hnew
  | alone hlast h =>
    obtain rfl := halone hlast
    obtain ⟨⟨brace, rest, hnamed, hkind⟩, hparts⟩ := hparts
    obtain ⟨hbuilt, hunnamed⟩ := (hparts brace (by rw [hnamed]; simp)).2 hkind
    have hbrace := tokensOf_brace hkind hbuilt hunnamed
    have htokens : x ++ named.children.flatMap tokensOf ++ y = x ++
        .opening :: (rest.flatMap tokensOf ++ y) := by
      rw [hnamed]
      simp [hbrace]
    rw [htokens] at hes
    have hnew := hes.alone (.new name)
    refine ⟨[.new name], ?_, ⟨rfl, List.Perm.refl _⟩⟩
    have hchildren := h.children_of_append [brace] hnamed rfl
    rw [hchildren]
    simpa [hbrace, tokensOf_lone hname] using hnew

theorem split_of_default {i : Nat} (hkinds : clause.namedChildren.map (·.kind) = ["identifier"])
    (hdefault : clause.children.findIdx? Node.named = some i) :
    ∃ past default after, clause.children = past ++ default :: after ∧ past.length = i ∧
      default.kind = "identifier" ∧ default.named = true ∧ ∀ c ∈ past ++ after, c.named = false := by
  obtain ⟨hlt, hnamed, hbefore⟩ := List.findIdx?_eq_some_iff_getElem.1 hdefault
  have hsplit : clause.children =
      clause.children.take i ++ clause.children[i] :: clause.children.drop (i + 1) := by
    rw [← List.drop_eq_getElem_cons hlt, List.take_append_drop]
  have hpast : ∀ c ∈ clause.children.take i, c.named = false := by
    intro c hc
    obtain ⟨j, hj, rfl⟩ := List.mem_take_iff_getElem.1 hc
    simpa using hbefore j (by omega)
  rw [namedChildren, hsplit, List.filter_append, List.filter_cons, if_pos hnamed,
    List.filter_eq_nil_iff.2 (by simpa using hpast), List.nil_append, List.map_cons] at hkinds
  obtain ⟨hkind, hrest⟩ := List.cons.inj hkinds
  have hafter : ∀ c ∈ clause.children.drop (i + 1), c.named = false := by
    simpa using List.filter_eq_nil_iff.1 (List.map_eq_nil_iff.1 hrest)
  exact ⟨_, _, _, hsplit, List.length_take_of_le (Nat.le_of_lt hlt), hkind, hnamed,
    List.forall_mem_append.2 ⟨hpast, hafter⟩⟩

theorem IsClause.gains (hclause : IsClause clause) {k : Nat} {t : Text} (h : Gains k t clause clause') :
    IsClause clause' := by
  refine ⟨fun c hc => ?_, fun c hc => ?_, fun c hc hkind => ?_⟩
  · obtain rfl | hc := h.eq_or_mem hc
    · exact fun hnamed => absurd hnamed (by decide : ¬ true = false)
    · exact hclause.commas c hc
  · obtain rfl | hc := h.eq_or_mem hc
    · exact fun hkind => absurd hkind (by decide : "synthetic" ≠ "identifier")
    · exact hclause.default c hc
  · obtain rfl | hc := h.eq_or_mem hc
    · exact absurd hkind (by decide : "synthetic" ≠ "named_imports")
    · exact hclause.braces c hc hkind

theorem Lists.default {i : Nat} (hname : IsWord name) (hclause : IsClause clause)
    (hkinds : clause.namedChildren.map (·.kind) = ["identifier"])
    (hdefault : clause.children.findIdx? Node.named = some i)
    (h : Gains (i + 1) (besides name) clause clause') (hes : Lists (clauseTokens clause) es) :
    Lists (clauseTokens clause') [.new name] ∧ es = [] := by
  obtain ⟨past, default, after, hsplit, rfl, hkind, hnamed, hunnamed⟩ := split_of_default hkinds hdefault
  obtain ⟨hpast, hafter⟩ := List.forall_mem_append.1 hunnamed
  have hcommas {items : List Node} (hitems : ∀ c ∈ items, c ∈ clause.children ∧ c.named = false) :
      ∀ t ∈ items.flatMap partTokens, t = .comma := by
    intro t ht
    obtain ⟨c, hc, ht⟩ := List.mem_flatMap.1 ht
    obtain ⟨hkind, hbuilt⟩ := hclause.commas c (hitems c hc).1 (hitems c hc).2
    rw [partTokens, tokensOf, hbuilt, hkind, (hitems c hc).2] at ht
    exact List.mem_singleton.1 ht
  have hwhole : partTokens default = [.whole] := by
    rw [partTokens, tokensOf, hclause.default default (by rw [hsplit]; simp) hkind, hkind, hnamed]
    rfl
  have htokens : clauseTokens clause = past.flatMap partTokens ++ .whole :: after.flatMap partTokens := by
    rw [clauseTokens, hsplit]
    simp [hwhole]
  rw [htokens] at hes
  obtain ⟨hpast', hafter', rfl⟩ := hes.eq_whole
    (hcommas fun c hc => ⟨by rw [hsplit]; simp [hc], hpast c hc⟩)
    (hcommas fun c hc => ⟨by rw [hsplit]; simp [hc], hafter c hc⟩)
  have hleaf : partTokens (leaf (besides name)) = [.comma, .opening, .entry (.new name), .closing] :=
    tokensOf_besides hname
  rw [List.append_cons] at hsplit
  refine ⟨?_, rfl⟩
  rw [clauseTokens, h.children_of_append (past ++ [default]) hsplit (by simp)]
  simp only [List.flatMap_append, List.flatMap_cons, List.flatMap_nil, hpast', hafter', hwhole, hleaf]
  exact .beside rfl

theorem Widened.lists (hname : IsWord name) (h : Widened name clause clause') (hclause : IsClause clause)
    (halone : ∀ named, clause.childOfKind? ["named_imports"] = some named →
      lastOfKind? named "import_specifier" = none → es = [])
    (hes : Lists (clauseTokens clause) es) :
    IsClause clause' ∧ ∃ es', Lists (clauseTokens clause') es' ∧ Adds name es es' := by
  cases h with
  | @braces i hi h =>
    obtain ⟨named, named', hnamed, hfilled, hchildren⟩ := h.child
    obtain ⟨c, hc, hkind, hfirst⟩ := kind_of_indexOfKind? hi
    obtain rfl : c = named := Option.some.inj (hc.symm.trans hnamed)
    refine ⟨hclause.set hnamed hfilled hchildren, ?_⟩
    obtain ⟨hlt, hget⟩ := List.getElem?_eq_some_iff.1 hc
    have hsplit : clause.children = clause.children.take i ++ c :: clause.children.drop (i + 1) := by
      rw [← hget, ← List.drop_eq_getElem_cons hlt, List.take_append_drop]
    have htokens (d : Node) (hd : d.kind = "named_imports") :
        (clause.children.take i ++ d :: clause.children.drop (i + 1)).flatMap partTokens =
          (clause.children.take i).flatMap partTokens ++ d.children.flatMap tokensOf ++
            (clause.children.drop (i + 1)).flatMap partTokens := by
      simp [partTokens, hd]
    rw [clauseTokens, hsplit, htokens c hkind] at hes
    obtain ⟨es', hes', hadds⟩ := hfilled.lists hname (hclause.braces c (List.mem_of_getElem? hc) hkind)
      (halone c hfirst) hes
    refine ⟨es', ?_, hadds⟩
    rw [clauseTokens, hchildren, List.set_eq_take_append_cons_drop, if_pos hlt,
      htokens named' (hfilled.edits.kind.trans hkind)]
    exact hes'
  | @beside i hi hkinds hdefault h =>
    obtain ⟨hnew, rfl⟩ := hes.default hname hclause hkinds hdefault h
    exact ⟨hclause.gains h, [.new name], hnew, ⟨rfl, List.Perm.refl _⟩⟩

/-- An import statement whose clause lists entries, among them all specifiers that it has. -/
structure Listed (s : Node) (es : List Entry) : Prop where
  clause : ∀ clause ∈ s.children, clause.kind = "import_clause" → IsClause clause
  lists : ∀ clause, s.childOfKind? ["import_clause"] = some clause → Lists (clauseTokens clause) es
  olds : es.filterMap Entry.old? = specifiers s

theorem eq_nil_of_filterMap (holds : es.filterMap Entry.old? = []) (hnews : es.filterMap Entry.new? = []) :
    es = [] := by
  cases es with
  | nil => rfl
  | cons e es =>
    cases e with
    | old spec => simp [Entry.old?] at holds
    | new name => simp [Entry.new?] at hnews

def HasEmptyBraces (s : Node) : Prop :=
  ∃ named, namedImports? s = some named ∧ ∀ c ∈ named.children, c.kind ≠ "import_specifier"

theorem specifiers_of_hasEmptyBraces (h : HasEmptyBraces s) : specifiers s = [] := by
  obtain ⟨named, hnamed, hnone⟩ := h
  rw [specifiers, hnamed, Option.map_some, Option.getD_some, List.filter_eq_nil_iff]
  intro c hc
  simpa using hnone c (List.mem_filter.1 hc).1

theorem Extended.listed (hname : IsWord name) (h : Extended name s s') (hs : Listed s es)
    (halone : HasEmptyBraces s → es.filterMap Entry.new? = []) :
    ∃ es', Listed s' es' ∧ Adds name es es' := by
  have hspecifiers := specifiers_extended h
  obtain ⟨clause, clause', hclause, hkind, hwidened, hfirst, hfirst', -⟩ := h.exists_clause
  have hnil : ∀ named, clause.childOfKind? ["named_imports"] = some named →
      lastOfKind? named "import_specifier" = none → es = [] := by
    intro named hnamed hlast
    have hbraces : namedImports? s = some named := by
      rw [namedImports?, hfirst, Option.bind_some, hnamed]
    have hempty : HasEmptyBraces s := ⟨named, hbraces, forall_ne_of_lastOfKind? hlast⟩
    exact eq_nil_of_filterMap (hs.olds.trans (specifiers_of_hasEmptyBraces hempty)) (halone hempty)
  obtain ⟨-, es', hes', hadds⟩ := hwidened.lists hname (hs.clause clause hclause hkind) hnil
    (hs.lists clause hfirst)
  refine ⟨es', ⟨fun c hc hckind => ?_, fun c hc => ?_, ?_⟩, hadds⟩
  · obtain ⟨j, hj, h⟩ := h
    obtain ⟨d, d', hd, hother, hchildren⟩ := h.child
    rw [hchildren] at hc
    obtain hc | rfl := List.mem_or_eq_of_mem_set hc
    · exact hs.clause c hc hckind
    · obtain ⟨e, he, -, hefirst⟩ := kind_of_indexOfKind? hj
      obtain rfl : e = d := Option.some.inj (he.symm.trans hd)
      obtain rfl : e = clause := Option.some.inj (hefirst.symm.trans hfirst)
      exact (hother.lists hname (hs.clause e hclause hkind) hnil (hs.lists e hfirst)).1
  · obtain rfl : c = clause' := Option.some.inj (hc.symm.trans hfirst')
    exact hes'
  · rw [hadds.olds, hs.olds, hspecifiers]

end Widening

end Header

end Phrasebook
