import Mathlib.Data.List.Infix
import Phrasebook.Proofs.Wrap.Template

/-! Reading a key back. A reader goes from left to right and cuts the key where a name of the options
stands in double braces. It finds the static parts of the template and its names just when no static part
has such a placeholder of its own: nothing in a key tells one from the other. -/

namespace Phrasebook

namespace CodePoint

abbrev openingBrace : CodePoint := ofChar '\x7b'

abbrev closingBrace : CodePoint := ofChar '\x7d'

end CodePoint

open CodePoint

namespace Text

/-- Whether every opening brace of a text is closed before the next one opens, the first one being open
already or not. -/
def isClosed : Bool → Text → Bool
  | opened, [] => !opened
  | opened, c :: rest =>
    if c = openingBrace then !opened && isClosed true rest
    else if c = closingBrace then opened && isClosed false rest
    else isClosed opened rest

/-- A text that can be a name: it has no braces but such as an escape within a name has, which closes
them again and does not start with them. -/
structure IsName (t : Text) : Prop where
  closed : isClosed false t = true
  head : t.head? ≠ some (openingBrace)

instance (t : Text) : Decidable t.IsName :=
  decidable_of_iff (isClosed false t = true ∧ t.head? ≠ some openingBrace)
    ⟨fun h => ⟨h.1, h.2⟩, fun h => ⟨h.closed, h.head⟩⟩

theorem isClosed_append {opened : Bool} {t t' : Text} (h : isClosed opened t = true) :
    isClosed opened (t ++ t') = isClosed false t' := by
  induction t generalizing opened with
  | nil =>
    obtain rfl : opened = false := by simpa [isClosed] using h
    rfl
  | cons c rest ih =>
    rw [isClosed] at h
    rw [List.cons_append, isClosed]
    split
    next hc =>
      rw [if_pos hc, Bool.and_eq_true] at h
      rw [h.1, Bool.true_and, ih h.2]
    next hc =>
      rw [if_neg hc] at h
      split
      next hc' =>
        rw [if_pos hc', Bool.and_eq_true] at h
        rw [h.1, Bool.true_and, ih h.2]
      next hc' =>
        rw [if_neg hc'] at h
        exact ih h

theorem isClosed_two_braces (opened : Bool) (t t' : Text) :
    isClosed opened (t ++ openingBrace :: openingBrace :: t') = false := by
  induction t generalizing opened with
  | nil => simp [isClosed]
  | cons c rest ih =>
    rw [List.cons_append, isClosed]
    split
    · rw [ih, Bool.and_false]
    · split
      · rw [ih, Bool.and_false]
      · exact ih opened

theorem isName_nil : IsName [] := ⟨rfl, by simp⟩

theorem IsName.append {t t' : Text} (h : IsName t) (h' : IsName t') : IsName (t ++ t') where
  closed := (isClosed_append h.closed).trans h'.closed
  head := by
    cases t with
    | nil => exact h'.head
    | cons c rest => exact h.head

theorem isName_of_plain {t : Text}
    (h : ∀ c ∈ t, c ≠ openingBrace ∧ c ≠ closingBrace) : IsName t := by
  constructor
  · induction t with
    | nil => rfl
    | cons c rest ih =>
      obtain ⟨hc, hrest⟩ := List.forall_mem_cons.1 h
      rw [isClosed, if_neg hc.1, if_neg hc.2]
      exact ih hrest
  · cases t with
    | nil => simp
    | cons c rest => simpa using (h c List.mem_cons_self).1

theorem isName_ofNat (n : Nat) : IsName (ofNat n) := by
  refine isName_of_plain fun c hc => ?_
  rw [ofNat, ofString, String.toList_ofList] at hc
  obtain ⟨d, hd, rfl⟩ := List.mem_map.1 hc
  have hdigit := Nat.isDigit_of_mem_toDigits (by decide) (by decide) hd
  constructor
  all_goals
    intro h
    rw [CodePoint.ofChar_injective h] at hdigit
    exact absurd hdigit (by decide)

end Text

namespace Placeholder

variable {source : Bytes}

theorem isName_attempt (i k : Nat) : (attempt (positional i) k).IsName := by
  have hposition : (positional i).IsName :=
    Text.IsName.append (Text.isName_of_plain (by decide)) (Text.isName_ofNat i)
  cases k with
  | zero => exact hposition
  | succ k =>
    exact (hposition.append (Text.isName_of_plain (by decide))).append (Text.isName_ofNat (k + 1))

theorem isName_names {expressions : List Node}
    (h : ∀ e ∈ expressions, NamesBelow source Text.IsName e.preorder) :
    ∀ name ∈ names source expressions, name.IsName := by
  refine (assigns_names source expressions).forall_mem (fun e he name hname _ => ?_) isName_attempt
  obtain ⟨n, hn, rfl⟩ := List.mem_map.1 he
  obtain ⟨chain, hchain, rfl⟩ := Option.map_eq_some_iff.1 hname
  exact Text.join_of_append Text.isName_nil Text.IsName.append (Text.isName_of_plain (by decide))
    (forall_mem_chain? (h n hn) hchain)

section Reading

variable {names : List Text} {name t rest : Text}

def front? (names : List Text) (t : Text) : Option Text := names.find? fun name => (inBraces name).isPrefixOf t

/-- The text before the first placeholder, and every placeholder's name with the text behind it, after
`skip` code points of a placeholder that was found already. -/
def cutFrom (names : List Text) : Nat → Text → Text × List (Text × Text)
  | _, [] => ([], [])
  | skip + 1, _ :: rest => cutFrom names skip rest
  | 0, c :: rest =>
    match front? names (c :: rest) with
    | some name =>
      let (piece, more) := cutFrom names (name.length + 3) rest
      ([], (name, piece) :: more)
    | none =>
      let (piece, more) := cutFrom names 0 rest
      (c :: piece, more)

/-- A key read from left to right and cut at each placeholder: the texts between them, and their names. -/
def cut (names : List Text) (key : Text) : List Text × List Text :=
  let (piece, more) := cutFrom names 0 key
  (piece :: more.map (·.2), more.map (·.1))

/-- A key with values in place of the placeholders. -/
def fill (names : List Text) (value : Text → Text) (key : Text) : Text :=
  weave (cut names key).1 ((cut names key).2.map value)

/-- Whether a text has a placeholder of one of the names in it. -/
def HasPlaceholder (names : List Text) (t : Text) : Prop := ∃ name ∈ names, inBraces name <:+: t

instance (names : List Text) (t : Text) : Decidable (HasPlaceholder names t) :=
  inferInstanceAs (Decidable (∃ name ∈ names, _))

theorem inBraces_eq (name : Text) : inBraces name = openingBrace :: openingBrace ::
    (name ++ [closingBrace, closingBrace]) := rfl

theorem front?_eq_none : front? names t = none ↔ ∀ name ∈ names, ¬ inBraces name <+: t := by
  simp [front?, List.find?_eq_none, List.isPrefixOf_iff_prefix]

theorem eq_of_placeholder_first {a b : Text} (ha : a.IsName) (hb : b.IsName) (hat : inBraces a <+: t)
    (hbt : inBraces b <+: t) : a = b := by
  have hshort {a b : Text} (ha : a.IsName) (hb : b.IsName) (hlead : inBraces a <+: inBraces b) : a = b := by
    rw [inBraces_eq, inBraces_eq, List.cons_prefix_cons, List.cons_prefix_cons] at hlead
    obtain ⟨rest, hrest⟩ := hlead.2.2
    rw [List.append_assoc] at hrest
    obtain ⟨w, hbw, hw⟩ | ⟨w, haw, hw⟩ := List.append_eq_append_iff.1 hrest
    · cases w with
      | nil => rw [hbw, List.append_nil]
      | cons c w =>
        obtain rfl : closingBrace = c := (List.cons.inj hw).1
        have hclosed := hb.closed
        rw [hbw, Text.isClosed_append ha.closed, Text.isClosed] at hclosed
        cases hclosed
    · cases w with
      | nil => rw [haw, List.append_nil]
      | cons c w =>
        obtain rfl : closingBrace = c := (List.cons.inj hw).1
        have hclosed := ha.closed
        rw [haw, Text.isClosed_append hb.closed, Text.isClosed] at hclosed
        cases hclosed
  rcases Nat.le_total (inBraces a).length (inBraces b).length with hle | hle
  · exact hshort ha hb (List.prefix_of_prefix_length_le hat hbt hle)
  · exact (hshort hb ha (List.prefix_of_prefix_length_le hbt hat hle)).symm

theorem front?_inBraces (hnames : ∀ name ∈ names, name.IsName) (hname : name ∈ names) (rest : Text) :
    front? names (inBraces name ++ rest) = some name := by
  have hfront : inBraces name <+: inBraces name ++ rest := List.prefix_append _ _
  cases h : front? names (inBraces name ++ rest) with
  | none => exact (front?_eq_none.1 h name hname hfront).elim
  | some found =>
    have hlead : inBraces found <+: inBraces name ++ rest :=
      List.isPrefixOf_iff_prefix.1 (List.find?_some (p := fun name => (inBraces name).isPrefixOf _) h)
    rw [eq_of_placeholder_first (hnames found (List.mem_of_find?_eq_some h)) (hnames name hname) hlead hfront]

theorem inBraces_first_of_append {a b : Text} {c : CodePoint} (ha : a.IsName)
    (h : inBraces a <+: c :: t ++ (inBraces b ++ rest)) : inBraces a <+: c :: t := by
  obtain ⟨more, hmore⟩ := h
  obtain ⟨w, ht, -⟩ | ⟨w, hw, hrest⟩ := List.append_eq_append_iff.1 hmore
  · exact ⟨w, ht.symm⟩
  cases w with
  | nil =>
    rw [List.append_nil] at hw
    exact ⟨[], by rw [hw, List.append_nil]⟩
  | cons d v =>
  exfalso
  rw [inBraces_eq, List.cons_append, List.cons_append] at hrest
  obtain ⟨rfl, hnext⟩ := List.cons.inj hrest
  have hhead : ∀ e v', v = e :: v' → openingBrace = e := by
    rintro e v' rfl
    exact (List.cons.inj hnext).1
  rw [inBraces_eq, List.cons_append] at hw
  cases t with
  | nil =>
    have hv := (List.cons.inj (List.cons.inj hw).2).2
    cases a with
    | nil => exact absurd (hhead _ _ hv.symm) (by decide)
    | cons e a => exact ha.head (congrArg some (hhead _ _ hv.symm).symm)
  | cons e t =>
    have hv := (List.cons.inj (List.cons.inj hw).2).2
    obtain ⟨as, -, hclose⟩ | ⟨bs, hbs, hclose⟩ := List.append_eq_append_iff.1 hv
    · have hmem : openingBrace ∈ [closingBrace, closingBrace] := by
        rw [hclose]
        exact List.mem_append_right _ List.mem_cons_self
      exact absurd hmem (by decide)
    · cases bs with
      | nil => exact absurd (List.cons.inj hclose).1 (by decide)
      | cons e bs =>
        obtain ⟨rfl, hbs'⟩ := List.cons.inj hclose
        cases bs with
        | nil => exact absurd (hhead _ _ hbs') (by decide)
        | cons e bs =>
          obtain rfl := hhead _ _ hbs'
          have hclosed := ha.closed
          rw [hbs, Text.isClosed_two_braces] at hclosed
          cases hclosed

theorem cutFrom_drop (names : List Text) (lead rest : Text) :
    cutFrom names lead.length (lead ++ rest) = cutFrom names 0 rest := by
  induction lead with
  | nil => rfl
  | cons c lead ih =>
    rw [List.length_cons, List.cons_append, cutFrom]
    exact ih

theorem cutFrom_inBraces (hnames : ∀ name ∈ names, name.IsName) (hname : name ∈ names) (rest : Text) :
    cutFrom names 0 (inBraces name ++ rest) =
      ([], (name, (cutFrom names 0 rest).1) :: (cutFrom names 0 rest).2) := by
  have hfront := front?_inBraces hnames hname rest
  rw [inBraces_eq, List.cons_append] at hfront ⊢
  have hlength : name.length + 3 = (openingBrace :: (name ++ [closingBrace, closingBrace])).length := by
    simp
  rw [cutFrom, hfront]
  dsimp only
  rw [hlength, cutFrom_drop]

theorem cutFrom_append (hnames : ∀ name ∈ names, name.IsName) (ht : ¬ HasPlaceholder names t)
    (hrest : rest = [] ∨ ∃ name more, rest = inBraces name ++ more) :
    cutFrom names 0 (t ++ rest) = (t ++ (cutFrom names 0 rest).1, (cutFrom names 0 rest).2) := by
  induction t with
  | nil => rfl
  | cons c t ih =>
    have hfront : front? names (c :: t ++ rest) = none := by
      refine front?_eq_none.2 fun name hname hlead => ht ⟨name, hname, List.IsPrefix.isInfix ?_⟩
      obtain rfl | ⟨other, more, rfl⟩ := hrest
      · rwa [List.append_nil] at hlead
      · exact inBraces_first_of_append (hnames name hname) hlead
    have htail : ¬ HasPlaceholder names t := fun ⟨name, hname, hinfix⟩ =>
      ht ⟨name, hname, hinfix.trans (List.suffix_cons c t).isInfix⟩
    rw [List.cons_append] at hfront ⊢
    rw [cutFrom, hfront, ih htail]
    rfl

theorem cutFrom_weave (hnames : ∀ name ∈ names, name.IsName) {quasi : Text} {quasis used : List Text}
    (hused : ∀ name ∈ used, name ∈ names) (hlength : quasis.length = used.length)
    (hquasi : ∀ q ∈ quasi :: quasis, ¬ HasPlaceholder names q) :
    cutFrom names 0 (weave (quasi :: quasis) (used.map inBraces)) = (quasi, used.zip quasis) := by
  induction used generalizing quasi quasis with
  | nil =>
    obtain rfl := List.eq_nil_of_length_eq_zero hlength
    have h := cutFrom_append hnames (hquasi quasi List.mem_cons_self) (.inl rfl)
    simpa [weave, cutFrom] using h
  | cons name used ih =>
    obtain ⟨next, quasis, rfl⟩ := List.exists_cons_of_length_eq_add_one hlength
    obtain ⟨hname, hused⟩ := List.forall_mem_cons.1 hused
    obtain ⟨hfirst, hrest⟩ := List.forall_mem_cons.1 hquasi
    have hkey : weave (quasi :: next :: quasis) ((name :: used).map inBraces) =
        quasi ++ (inBraces name ++ weave (next :: quasis) (used.map inBraces)) := by
      simp [weave]
    rw [hkey, cutFrom_append hnames hfirst (.inr ⟨name, _, rfl⟩), cutFrom_inBraces hnames hname,
      ih hused (Nat.succ.inj hlength) hrest, List.append_nil]
    rfl

theorem fst_cutFrom_first (names : List Text) (t : Text) : (cutFrom names 0 t).1 <+: t := by
  induction t with
  | nil => exact List.prefix_rfl
  | cons c t ih =>
    rw [cutFrom]
    split
    · exact List.nil_prefix
    · exact List.cons_prefix_cons.2 ⟨rfl, ih⟩

theorem not_hasPlaceholder_cutFrom (names : List Text) (skip : Nat) (t : Text) :
    ¬ HasPlaceholder names (cutFrom names skip t).1 ∧
      ∀ p ∈ (cutFrom names skip t).2, ¬ HasPlaceholder names p.2 := by
  have hnil : ¬ HasPlaceholder names [] := fun ⟨name, _, hinfix⟩ => by
    rw [List.infix_nil] at hinfix
    cases hinfix
  induction t generalizing skip with
  | nil =>
    rw [cutFrom]
    exact ⟨hnil, fun p hp => absurd hp List.not_mem_nil⟩
  | cons c t ih =>
    cases skip with
    | succ skip => exact ih skip
    | zero =>
      rw [cutFrom]
      split
      next name hfront =>
        obtain ⟨hpiece, hmore⟩ := ih (name.length + 3)
        exact ⟨hnil, List.forall_mem_cons.2 ⟨hpiece, hmore⟩⟩
      next hfront =>
        obtain ⟨hpiece, hmore⟩ := ih 0
        refine ⟨fun ⟨name, hname, hinfix⟩ => ?_, hmore⟩
        obtain hlead | hinfix := List.infix_cons_iff.1 hinfix
        · have hwhole : inBraces name <+: c :: t :=
            hlead.trans (List.cons_prefix_cons.2 ⟨rfl, fst_cutFrom_first names t⟩)
          exact front?_eq_none.1 hfront name hname hwhole
        · exact hpiece ⟨name, hname, hinfix⟩

theorem cut_keyText_iff (hnames : ∀ name ∈ names, name.IsName) {quasis used : List Text}
    (hused : ∀ name ∈ used, name ∈ names) (hlength : quasis.length = used.length + 1) :
    cut names (keyText quasis used) = (quasis, used) ↔ ∀ q ∈ quasis, ¬ HasPlaceholder names q := by
  obtain ⟨quasi, quasis, rfl⟩ := List.exists_cons_of_length_eq_add_one hlength
  have hlength' : quasis.length = used.length := Nat.succ.inj hlength
  constructor
  · intro h q hq
    have hpieces := not_hasPlaceholder_cutFrom names 0 (keyText (quasi :: quasis) used)
    have hquasis : q ∈ (cut names (keyText (quasi :: quasis) used)).1 := by rwa [h]
    obtain rfl | hmem := List.mem_cons.1 hquasis
    · exact hpieces.1
    · obtain ⟨p, hp, rfl⟩ := List.mem_map.1 hmem
      exact hpieces.2 p hp
  · intro h
    rw [cut, keyText, cutFrom_weave hnames hused hlength' h]
    show (quasi :: (used.zip quasis).map (·.2), (used.zip quasis).map (·.1)) = _
    rw [List.map_snd_zip (le_of_eq hlength'), List.map_fst_zip (le_of_eq hlength'.symm)]

end Reading

/-- What an options object gives for a name, where each expression's value goes by its text. -/
def valueOf (source : Bytes) (options : List (Text × Node)) (value : Text → Text) (name : Text) : Text :=
  ((options.find? fun o => o.1 == name).map fun o => value (o.2.textD source)).getD []

theorem map_valueOf (source : Bytes) (expressions : List Node) (value : Text → Text) :
    (names source expressions).map
        (valueOf source (firstUses [] ((names source expressions).zip expressions)) value) =
      expressions.map fun e => value (e.textD source) := by
  have hlength := length_names source expressions
  set pairs := (names source expressions).zip expressions with hpairs
  have hnames : pairs.map (·.1) = names source expressions := List.map_fst_zip (le_of_eq hlength)
  have hexpressions : pairs.map (·.2) = expressions := List.map_snd_zip (le_of_eq hlength.symm)
  have hvalue : ∀ p ∈ pairs, valueOf source (firstUses [] pairs) value p.1 = value (p.2.textD source) := by
    intro p hp
    have hmem : p.1 ∈ (firstUses [] pairs).map (·.1) := by
      rw [map_firstUses_nil, List.mem_eraseDups]
      exact List.mem_map_of_mem hp
    obtain ⟨o, ho, hname⟩ := List.mem_map.1 hmem
    cases hfound : (firstUses [] pairs).find? fun o => o.1 == p.1 with
    | none => exact absurd hname (by simpa using List.find?_eq_none.1 hfound o ho)
    | some q =>
      have hq : q.1 = p.1 := by simpa using List.find?_some hfound
      have hpairs := (Pass.firstUses_sublist [] pairs).subset (List.mem_of_find?_eq_some hfound)
      rw [valueOf, hfound, ← textD_eq_of_name hpairs hp hq]
      rfl
  calc (names source expressions).map (valueOf source (firstUses [] pairs) value)
      = pairs.map fun p => valueOf source (firstUses [] pairs) value p.1 := by
        rw [← hnames, List.map_map]; rfl
    _ = pairs.map fun p => value (p.2.textD source) := List.map_congr_left hvalue
    _ = (pairs.map (·.2)).map fun e => value (e.textD source) := by rw [List.map_map]; rfl
    _ = expressions.map fun e => value (e.textD source) := by rw [hexpressions]

/-- The key of a template is read back as its static parts and its names just when no static part has a
placeholder of one of the names, and with values in place of the names it is then the template's text. -/
theorem interpolate_readable_iff {n : Node} {t : Literal.Template}
    (ht : Literal.templateParts source n = .ok t)
    (hnames : ∀ e ∈ t.expressions, NamesBelow source Text.IsName e.preorder) :
    ∃ key options, interpolate t.quasis (names source t.expressions) = .ok key ∧
      options = Pass.keptExpressions source n.items ∧
      (cut (options.map (·.1)) key = (t.quasis, names source t.expressions) ↔
        ∀ q ∈ t.quasis, ¬ HasPlaceholder (options.map (·.1)) q) ∧
      ((∀ q ∈ t.quasis, ¬ HasPlaceholder (options.map (·.1)) q) → ∀ value : Text → Text,
        fill (options.map (·.1)) (valueOf source options value) key =
          weave t.quasis (t.expressions.map fun e => value (e.textD source))) := by
  have hlength := Literal.length_quasis ht
  have hcount := length_names source t.expressions
  have hoptions : ((Pass.keptExpressions source n.items).map (·.1)) =
      (names source t.expressions).eraseDups := by
    rw [Pass.keptExpressions_eq ht, map_firstUses_nil, List.map_fst_zip (le_of_eq hcount)]
  have hoption : ∀ name ∈ (names source t.expressions).eraseDups, name.IsName :=
    fun name hname => isName_names hnames name (List.mem_eraseDups.1 hname)
  have hread := cut_keyText_iff hoption (fun name hname => List.mem_eraseDups.2 hname)
    (hlength.trans (congrArg (· + 1) hcount.symm))
  refine ⟨_, _, interpolate_eq (List.ne_nil_of_length_eq_add_one hlength) _, rfl, ?_, fun h value => ?_⟩
  · rw [hoptions]
    exact hread
  · rw [hoptions] at h ⊢
    rw [fill, hread.2 h, Pass.keptExpressions_eq ht, map_valueOf]

end Placeholder

namespace Sample

def ambiguous : Tree where
  source := (Utf8.encode? "`가\x7b\x7ba\x7d\x7d$\x7ba\x7d`").getD []
  root := node "template_string" true 0 14 [token "`" 0 1, node "string_fragment" true 1 9 [],
    substitution (node "identifier" true 11 12 []) 9 13, token "`" 13 14]

end Sample

open Placeholder

theorem interpolate_readable_clashing :
    ∃ t key, Literal.templateParts Sample.clashing.source Sample.clashing.root = .ok t ∧
      t.quasis = [Text.ofString "가 ", [], [], []] ∧
      names Sample.clashing.source t.expressions =
        [Text.ofString "a_b", Text.ofString "expr1", Text.ofString "a_b"] ∧
      interpolate t.quasis (names Sample.clashing.source t.expressions) = .ok key ∧
      cut ((Pass.keptExpressions Sample.clashing.source Sample.clashing.root.items).map (·.1)) key =
        (t.quasis, names Sample.clashing.source t.expressions) := by
  have hparts : (Literal.templateParts Sample.clashing.source Sample.clashing.root).toOption.map
      (fun t => (t.quasis, names Sample.clashing.source t.expressions)) =
        some ([Text.ofString "가 ", [], [], []],
          [Text.ofString "a_b", Text.ofString "expr1", Text.ofString "a_b"]) := by decide +kernel
  have hbelow : (Literal.templateParts Sample.clashing.source Sample.clashing.root).toOption.any (fun t =>
      t.expressions.all fun e => decide (NamesBelow Sample.clashing.source Text.IsName e.preorder)) =
        true := by decide +kernel
  have hquasis : ∀ q ∈ [Text.ofString "가 ", [], [], []], ¬ HasPlaceholder
      ((Pass.keptExpressions Sample.clashing.source Sample.clashing.root.items).map (·.1)) q := by
    decide +kernel
  cases ht : Literal.templateParts Sample.clashing.source Sample.clashing.root with
  | error e =>
    rw [ht] at hparts
    cases hparts
  | ok t =>
    rw [ht] at hparts hbelow
    obtain ⟨hquasi, hnames⟩ := Prod.mk.inj (Option.some.inj hparts)
    obtain ⟨key, options, hkey, rfl, hread, -⟩ := interpolate_readable_iff ht
      fun e he => of_decide_eq_true (List.all_eq_true.1 hbelow e he)
    exact ⟨t, key, rfl, hquasi, hnames, hkey, hread.2 (hquasi ▸ hquasis)⟩

/-- Nothing tells the placeholder of the static part from that of the expression. -/
theorem cut_not_readable_ambiguous :
    ∃ t key, Literal.templateParts Sample.ambiguous.source Sample.ambiguous.root = .ok t ∧
      t.quasis = [Text.ofString "가\x7b\x7ba\x7d\x7d", []] ∧
      names Sample.ambiguous.source t.expressions = [Text.ofString "a"] ∧
      interpolate t.quasis (names Sample.ambiguous.source t.expressions) = .ok key ∧
      cut ((Pass.keptExpressions Sample.ambiguous.source Sample.ambiguous.root.items).map (·.1)) key =
        ([Text.ofString "가", [], []], [Text.ofString "a", Text.ofString "a"]) ∧
      cut ((Pass.keptExpressions Sample.ambiguous.source Sample.ambiguous.root.items).map (·.1)) key ≠
        (t.quasis, names Sample.ambiguous.source t.expressions) := by
  have hparts : (Literal.templateParts Sample.ambiguous.source Sample.ambiguous.root).toOption.map
      (fun t => (t.quasis, names Sample.ambiguous.source t.expressions)) =
        some ([Text.ofString "가\x7b\x7ba\x7d\x7d", []], [Text.ofString "a"]) := by decide +kernel
  have hcut : cut ((Pass.keptExpressions Sample.ambiguous.source Sample.ambiguous.root.items).map (·.1))
      (keyText [Text.ofString "가\x7b\x7ba\x7d\x7d", []] [Text.ofString "a"]) =
        ([Text.ofString "가", [], []], [Text.ofString "a", Text.ofString "a"]) := by decide +kernel
  cases ht : Literal.templateParts Sample.ambiguous.source Sample.ambiguous.root with
  | error e =>
    rw [ht] at hparts
    cases hparts
  | ok t =>
    rw [ht] at hparts
    obtain ⟨hquasi, hnames⟩ := Prod.mk.inj (Option.some.inj hparts)
    refine ⟨t, _, rfl, hquasi, hnames, interpolate_eq (by simp [hquasi]) _, ?_, ?_⟩
    · rw [hquasi, hnames, hcut]
    · rw [hquasi, hnames, hcut]
      decide

end Phrasebook
