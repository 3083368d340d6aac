import Phrasebook.Files.Braces
import Phrasebook.Proofs.Lists
import Phrasebook.Proofs.Text.Pieces

/-! What a pattern with braces stands for. Groups are expanded one after the other in the text, each time
the one whose closing brace comes first; for a pattern that is built from groups, however they are nested,
this comes to choosing one alternative in each. -/

namespace Phrasebook.Braces

/-! ### Patterns as they are built -/

mutual

/-- Characters that stand for themselves, and groups of two or more alternatives. -/
inductive Pattern
  | done
  | char (c : CodePoint) (rest : Pattern)
  | group (first : Pattern) (others : Alternatives) (rest : Pattern)

inductive Alternatives
  | last (p : Pattern)
  | more (p : Pattern) (rest : Alternatives)

end

mutual

/-- The text that spells a pattern. -/
def Pattern.spell : Pattern → Text
  | .done => []
  | .char c rest => c :: rest.spell
  | .group first others rest =>
    opening :: (first.spell ++ comma :: (others.spell ++ closing :: rest.spell))

def Alternatives.spell : Alternatives → Text
  | .last p => p.spell
  | .more p rest => p.spell ++ comma :: rest.spell

end

mutual

/-- The texts that come from one alternative of each group. -/
def Pattern.choices : Pattern → List Text
  | .done => [[]]
  | .char c rest => rest.choices.map (c :: ·)
  | .group first others rest =>
    (first.choices ++ others.choices).flatMap fun a => rest.choices.map (a ++ ·)

def Alternatives.choices : Alternatives → List Text
  | .last p => p.choices
  | .more p rest => p.choices ++ rest.choices

end

mutual

/-- A pattern whose own characters are no braces, and in a group no commas. -/
def Pattern.IsProper (inGroup : Bool) : Pattern → Prop
  | .done => True
  | .char c rest => isBrace c = false ∧ (inGroup = true → c ≠ comma) ∧ rest.IsProper inGroup
  | .group first others rest => first.IsProper true ∧ others.AreProper ∧ rest.IsProper inGroup

def Alternatives.AreProper : Alternatives → Prop
  | .last p => p.IsProper true
  | .more p rest => p.IsProper true ∧ rest.AreProper

end

mutual

def Pattern.decideProper (inGroup : Bool) : ∀ p : Pattern, Decidable (p.IsProper inGroup)
  | .done => .isTrue trivial
  | .char _ rest =>
    have := rest.decideProper inGroup
    inferInstanceAs (Decidable (_ ∧ _ ∧ _))
  | .group first others rest =>
    have := first.decideProper true
    have := others.decideProper
    have := rest.decideProper inGroup
    inferInstanceAs (Decidable (_ ∧ _ ∧ _))

def Alternatives.decideProper : ∀ a : Alternatives, Decidable a.AreProper
  | .last p => p.decideProper true
  | .more p rest =>
    have := p.decideProper true
    have := rest.decideProper
    inferInstanceAs (Decidable (_ ∧ _))

end

instance (inGroup : Bool) (p : Pattern) : Decidable (p.IsProper inGroup) := p.decideProper inGroup

def Pattern.append : Pattern → Pattern → Pattern
  | .done, q => q
  | .char c rest, q => .char c (rest.append q)
  | .group first others rest, q => .group first others (rest.append q)

def Alternatives.toList : Alternatives → List Pattern
  | .last p => [p]
  | .more p rest => p :: rest.toList

variable {p q : Pattern} {a : Alternatives} {inGroup : Bool} {r t tail : Text} {c : CodePoint}

theorem Pattern.spell_append (p q : Pattern) : (p.append q).spell = p.spell ++ q.spell := by
  match p with
  | .done => rfl
  | .char c rest => exact congrArg (c :: ·) (rest.spell_append q)
  | .group first others rest =>
    simp only [Pattern.append, Pattern.spell, rest.spell_append q, List.append_assoc, List.cons_append]

theorem Pattern.mem_choices_append (p q : Pattern) (r : Text) :
    r ∈ (p.append q).choices ↔ ∃ a ∈ p.choices, ∃ b ∈ q.choices, r = a ++ b := by
  match p with
  | .done => simp [Pattern.append, Pattern.choices]
  | .char c rest =>
    simp only [Pattern.append, Pattern.choices, List.mem_map, rest.mem_choices_append q]
    constructor
    · rintro ⟨_, ⟨a, ha, b, hb, rfl⟩, rfl⟩
      exact ⟨c :: a, ⟨a, ha, rfl⟩, b, hb, rfl⟩
    · rintro ⟨_, ⟨a, ha, rfl⟩, b, hb, rfl⟩
      exact ⟨a ++ b, ⟨a, ha, b, hb, rfl⟩, rfl⟩
  | .group first others rest =>
    simp only [Pattern.append, Pattern.choices, List.mem_flatMap, List.mem_map, rest.mem_choices_append q]
    constructor
    · rintro ⟨x, hx, _, ⟨a, ha, b, hb, rfl⟩, rfl⟩
      exact ⟨x ++ a, ⟨x, hx, a, ha, rfl⟩, b, hb, (List.append_assoc ..).symm⟩
    · rintro ⟨_, ⟨x, hx, a, ha, rfl⟩, b, hb, rfl⟩
      exact ⟨x, hx, a ++ b, ⟨a, ha, b, hb, rfl⟩, (List.append_assoc ..).symm⟩

theorem Pattern.IsProper.append : ∀ {p : Pattern}, p.IsProper true → q.IsProper inGroup →
    (p.append q).IsProper inGroup
  | .done, _, hq => hq
  | .char _ _, hp, hq => ⟨hp.1, fun _ => hp.2.1 rfl, hp.2.2.append hq⟩
  | .group _ _ _, hp, hq => ⟨hp.1, hp.2.1, hp.2.2.append hq⟩

/-! ### The first group of a text -/

/-- A text without braces. -/
def IsPlain (t : Text) : Prop := ∀ c ∈ t, isBrace c = false

def Opens (t : Text) : Prop := ∃ plain more, t = plain ++ opening :: more ∧ IsPlain plain

/-- A text with a group in it: a comma and no braces between two braces. -/
def HasGroup (t : Text) : Prop := ∃ before inside after,
  t = before ++ opening :: (inside ++ closing :: after) ∧ IsPlain inside ∧ comma ∈ inside

theorem IsPlain.append (h : IsPlain t) (h' : IsPlain tail) : IsPlain (t ++ tail) :=
  List.forall_mem_append.2 ⟨h, h'⟩

theorem isPlain_comma : IsPlain [comma] := by
  unfold IsPlain
  decide

theorem takeWhile_plain (h : IsPlain t) (hc : isBrace c = true) (tail : Text) :
    (t ++ c :: tail).takeWhile (fun c => !isBrace c) = t ∧
      (t ++ c :: tail).dropWhile (fun c => !isBrace c) = c :: tail := by
  have hall : ∀ d ∈ t, (!isBrace d) = true := fun d hd => by rw [h d hd]; rfl
  rw [List.takeWhile_append_of_pos hall, List.dropWhile_append_of_pos hall]
  simp [hc]

theorem groupAt?_of_opens (h : Opens t) (tail : Text) : groupAt? (t ++ tail) = none := by
  obtain ⟨plain, more, rfl, hplain⟩ := h
  have htail : plain ++ opening :: more ++ tail = plain ++ opening :: (more ++ tail) := List.append_assoc ..
  rw [htail, groupAt?, (takeWhile_plain hplain (by decide) _).2]
  exact if_neg fun hclosing => absurd hclosing.1 (by decide)

theorem groupAt?_eq_some {inside : Text} (h : IsPlain inside) (hcomma : comma ∈ inside) (after : Text) :
    groupAt? (inside ++ closing :: after) = some ⟨[], inside, after⟩ := by
  obtain ⟨htake, hdrop⟩ := takeWhile_plain h (by decide : isBrace closing = true) after
  rw [groupAt?, htake, hdrop]
  exact if_pos ⟨rfl, hcomma⟩

theorem firstGroup?_cons (hc : isBrace c = false) (t : Text) :
    firstGroup? (c :: t) = (firstGroup? t).map fun g => { g with before := c :: g.before } := by
  have hne : c ≠ opening := by
    rintro rfl
    exact absurd hc (by decide)
  rw [firstGroup?, if_neg hne]

theorem firstGroup?_plain_append {plain : Text} (h : IsPlain plain) (t : Text) :
    firstGroup? (plain ++ t) = (firstGroup? t).map fun g => { g with before := plain ++ g.before } := by
  induction plain with
  | nil => exact Option.map_id'.symm
  | cons c plain ih =>
    obtain ⟨hc, hplain⟩ := List.forall_mem_cons.1 h
    rw [List.cons_append, firstGroup?_cons hc, ih hplain, Option.map_map]
    rfl

theorem firstGroup?_of_isPlain (h : IsPlain t) : firstGroup? t = none := by
  have hnone := firstGroup?_plain_append h []
  rwa [List.append_nil] at hnone

theorem firstGroup?_opening (h : Opens t) (tail : Text) : firstGroup? (opening :: (t ++ tail)) =
    (firstGroup? (t ++ tail)).map fun g => { g with before := opening :: g.before } := by
  rw [firstGroup?, if_pos rfl, groupAt?_of_opens h tail]

theorem groupAt?_spec {g : Group} (h : groupAt? t = some g) :
    t = g.inside ++ closing :: g.after ∧ IsPlain g.inside ∧ comma ∈ g.inside := by
  have hsplit : t.takeWhile (fun c => !isBrace c) ++ t.dropWhile (fun c => !isBrace c) = t :=
    List.takeWhile_append_dropWhile
  unfold groupAt? at h
  split at h
  next c after hdrop =>
    dsimp only at h
    split at h
    next hc =>
      cases h
      refine ⟨?_, fun d hd => ?_, hc.2⟩
      · rw [hdrop, hc.1] at hsplit
        exact hsplit.symm
      · simpa using List.all_eq_true.1 List.all_takeWhile d hd
    next => cases h
  next => cases h

theorem firstGroup?_eq_none : firstGroup? t = none ↔ ¬ HasGroup t := by
  constructor
  · rintro hnone ⟨before, inside, after, rfl, hplain, hcomma⟩
    induction before with
    | nil =>
      rw [List.nil_append, firstGroup?, if_pos rfl, groupAt?_eq_some hplain hcomma] at hnone
      cases hnone
    | cons c before ih =>
      rw [List.cons_append, firstGroup?] at hnone
      split at hnone
      next => cases hnone
      next => exact ih (Option.map_eq_none_iff.1 hnone)
  · intro hnone
    induction t with
    | nil => rfl
    | cons c t ih =>
      have hrest : firstGroup? t = none := by
        refine ih ?_
        rintro ⟨before, inside, after, rfl, hgroup⟩
        exact hnone ⟨c :: before, inside, after, by rw [List.cons_append], hgroup⟩
      rw [firstGroup?, hrest]
      by_cases hc : c = opening
      · rw [if_pos hc]
        cases hgroup : groupAt? t with
        | none => rfl
        | some g =>
          obtain ⟨ht, hinside⟩ := groupAt?_spec hgroup
          exact (hnone ⟨[], g.inside, g.after, by rw [hc, ht]; rfl, hinside⟩).elim
      · rw [if_neg hc]
        rfl

/-! ### One step of the expansion -/

/-- Without groups: a text without braces, and in a group without commas, which is its only choice. -/
structure IsLiteral (inGroup : Bool) (p : Pattern) : Prop where
  plain : IsPlain p.spell
  commas : inGroup = true → comma ∉ p.spell
  choices : ∀ r, r ∈ p.choices ↔ r = p.spell

theorem Alternatives.mem_choices (r : Text) : ∀ a : Alternatives,
    r ∈ a.choices ↔ ∃ p ∈ a.toList, r ∈ p.choices
  | .last p => by simp [Alternatives.choices, Alternatives.toList]
  | .more p rest => by simp [Alternatives.choices, Alternatives.toList, rest.mem_choices r]

theorem Alternatives.AreProper.of_mem : ∀ {a : Alternatives}, a.AreProper → ∀ p ∈ a.toList, p.IsProper true
  | .last _, h => List.forall_mem_singleton.2 h
  | .more _ _, h => List.forall_mem_cons.2 ⟨h.1, h.2.of_mem⟩

theorem Alternatives.isPlain_spell : ∀ {a : Alternatives}, (∀ p ∈ a.toList, IsLiteral true p) → IsPlain a.spell
  | .last _, h => (List.forall_mem_singleton.1 h).plain
  | .more _ _, h =>
    (List.forall_mem_cons.1 h).1.plain.append (isPlain_comma.append (isPlain_spell (List.forall_mem_cons.1 h).2))

theorem Alternatives.cut_spell : ∀ {a : Alternatives}, (∀ p ∈ a.toList, IsLiteral true p) →
    Text.cut comma a.spell = a.toList.map Pattern.spell
  | .last _, h => Text.cut_of_not_mem ((List.forall_mem_singleton.1 h).commas rfl)
  | .more p rest, h => by
    obtain ⟨hp, hrest⟩ := List.forall_mem_cons.1 h
    rw [Alternatives.spell, Text.cut_append_sep, Text.cut_of_not_mem (hp.commas rfl), cut_spell hrest]
    rfl

/-- What the first group of a text comes to, with anything behind the text: a text for each of its options.
These are the spellings of `ways`, which have between them the choices there are. -/
structure Unfolds {α : Type} (spell : α → Text) (choices : α → List Text) (x : α) (ways : List α) :
    Prop where
  opens : Opens (spell x)
  choices : ∀ r, r ∈ choices x ↔ ∃ y ∈ ways, r ∈ choices y
  first : ∀ tail, ∃ g, firstGroup? (spell x ++ tail) = some g ∧
    (Text.cut comma g.inside).map (fun option => g.before ++ option ++ g.after) =
      ways.map fun y => spell y ++ tail

theorem Opens.plain_append {plain : Text} (h : Opens t) (hplain : IsPlain plain) : Opens (plain ++ t) := by
  obtain ⟨front, more, rfl, hfront⟩ := h
  exact ⟨plain ++ front, more, (List.append_assoc ..).symm, hplain.append hfront⟩

theorem Opens.append (h : Opens t) (tail : Text) : Opens (t ++ tail) := by
  obtain ⟨plain, more, rfl, hplain⟩ := h
  exact ⟨plain, more ++ tail, List.append_assoc .., hplain⟩

theorem Unfolds.ways_ne_nil {α : Type} {spell : α → Text} {choices : α → List Text} {x : α} {ways : List α}
    (h : Unfolds spell choices x ways) : ways ≠ [] := by
  rintro rfl
  obtain ⟨g, -, hways⟩ := h.first []
  exact Text.cut_ne_nil comma g.inside (List.map_eq_nil_iff.1 hways)

/-- A step of a part is a step of the whole, when nothing in front of the part is found as a group. The
choices of the whole are those got from one of the part (`use`), and others that the part has no say in. -/
theorem Unfolds.within {α β : Type} {spell : α → Text} {choices : α → List Text} {x : α} {ways : List α}
    {spell' : β → Text} {choices' : β → List Text} (h : Unfolds spell choices x ways) (wrap : α → β)
    (front back : Text) (hspell : ∀ y, spell' (wrap y) = front ++ (spell y ++ back))
    (hopens : Opens (spell' (wrap x)))
    (hfront : ∀ tail, firstGroup? (front ++ (spell x ++ tail)) =
      (firstGroup? (spell x ++ tail)).map fun g => { g with before := front ++ g.before })
    (use : Text → Text → Prop) (other : Text → Prop)
    (hchoices : ∀ y r, r ∈ choices' (wrap y) ↔ (∃ a ∈ choices y, use a r) ∨ other r) :
    Unfolds spell' choices' (wrap x) (ways.map wrap) where
  opens := hopens
  choices r := by
    obtain ⟨way, hway⟩ := List.exists_mem_of_ne_nil ways h.ways_ne_nil
    simp only [List.mem_map, exists_exists_and_eq_and, hchoices, h.choices]
    constructor
    · rintro (⟨a, ⟨y, hy, ha⟩, huse⟩ | hother)
      · exact ⟨y, hy, .inl ⟨a, ha, huse⟩⟩
      · exact ⟨way, hway, .inr hother⟩
    · rintro ⟨y, hy, ⟨a, ha, huse⟩ | hother⟩
      · exact .inl ⟨a, ⟨y, hy, ha⟩, huse⟩
      · exact .inr hother
  first tail := by
    obtain ⟨g, hg, hways⟩ := h.first (back ++ tail)
    refine ⟨{ g with before := front ++ g.before }, ?_, ?_⟩
    · rw [hspell, List.append_assoc, List.append_assoc, hfront, hg]
      rfl
    · have hmap := congrArg (List.map (front ++ ·)) hways
      simp only [List.map_map, Function.comp_def, List.append_assoc] at hmap ⊢
      simp only [hspell, List.append_assoc]
      exact hmap

theorem Pattern.mem_choices_group (first rest : Pattern) (others : Alternatives) (r : Text) :
    r ∈ (Pattern.group first others rest).choices ↔
      (∃ a ∈ first.choices, ∃ b ∈ rest.choices, r = a ++ b) ∨
      ∃ a ∈ others.choices, ∃ b ∈ rest.choices, r = a ++ b := by
  simp only [Pattern.choices, List.mem_flatMap, List.mem_append, List.mem_map, or_and_right, exists_or,
    eq_comm (a := r)]

theorem unfolds_group {first : Pattern} {others : Alternatives} (hfirst : IsLiteral true first)
    (hothers : ∀ p ∈ others.toList, IsLiteral true p) (rest : Pattern) :
    Unfolds Pattern.spell Pattern.choices (.group first others rest)
      ((first :: others.toList).map fun p => p.append rest) where
  opens := ⟨[], _, rfl, fun _ hc => absurd hc List.not_mem_nil⟩
  choices r := by
    rw [Pattern.mem_choices_group]
    simp only [List.map_cons, List.mem_cons, exists_eq_or_imp, List.mem_map, exists_exists_and_eq_and,
      Pattern.mem_choices_append, Alternatives.mem_choices]
    refine or_congr Iff.rfl ⟨?_, ?_⟩
    · rintro ⟨a, ⟨p, hp, ha⟩, hrest⟩
      exact ⟨p, hp, a, ha, hrest⟩
    · rintro ⟨p, hp, a, ha, hrest⟩
      exact ⟨a, ⟨p, hp, ha⟩, hrest⟩
  first tail := by
    have hplain : IsPlain (first.spell ++ comma :: others.spell) :=
      hfirst.plain.append (isPlain_comma.append (Alternatives.isPlain_spell hothers))
    have htext : (Pattern.group first others rest).spell ++ tail =
        opening :: (first.spell ++ comma :: others.spell ++ closing :: (rest.spell ++ tail)) := by
      simp only [Pattern.spell, List.cons_append, List.append_assoc]
    refine ⟨⟨[], first.spell ++ comma :: others.spell, rest.spell ++ tail⟩, ?_, ?_⟩
    · rw [htext, firstGroup?, if_pos rfl, groupAt?_eq_some hplain (by simp)]
    · rw [Text.cut_append_sep, Text.cut_of_not_mem (hfirst.commas rfl), Alternatives.cut_spell hothers]
      simp [Pattern.spell_append, Function.comp_def]

mutual

/-- A pattern is literal, or the first group of its text is one of its groups and unfolds it. The cases
go from left to right: the first part with groups in it is the one that unfolds. -/
theorem Pattern.literal_or_unfolds (inGroup : Bool) : ∀ p : Pattern, p.IsProper inGroup →
    IsLiteral inGroup p ∨
      ∃ ways, (∀ y ∈ ways, y.IsProper inGroup) ∧ Unfolds Pattern.spell Pattern.choices p ways
  | .done, _ => .inl ⟨fun _ hc => absurd hc List.not_mem_nil, fun _ => List.not_mem_nil, fun r => by
      simp [Pattern.choices, Pattern.spell]⟩
  | .char c rest, ⟨hc, hcomma, hrest⟩ => by
    have hplain : IsPlain [c] := fun d hd => List.mem_singleton.1 hd ▸ hc
    rcases rest.literal_or_unfolds inGroup hrest with h | ⟨ways, hways, h⟩
    · refine .inl ⟨hplain.append h.plain, fun hin => ?_, fun r => ?_⟩
      · exact List.not_mem_cons_of_ne_of_not_mem (Ne.symm (hcomma hin)) (h.commas hin)
      · simp [Pattern.choices, Pattern.spell, h.choices, eq_comm]
    · refine .inr ⟨ways.map (Pattern.char c), ?_, ?_⟩
      · exact List.forall_mem_map.2 fun y hy => ⟨hc, hcomma, hways y hy⟩
      · refine h.within (Pattern.char c) [c] [] (fun y => ?_) (h.opens.plain_append hplain)
          (fun tail => firstGroup?_plain_append hplain _) (fun a r => c :: a = r) (fun _ => False) fun y r => ?_
        · rw [List.append_nil]
          rfl
        · simp [Pattern.choices]
  | .group first others rest, ⟨hfirst, hothers, hrest⟩ => by
    have hopens (first : Pattern) (others : Alternatives) : Opens (Pattern.group first others rest).spell :=
      ⟨[], _, rfl, fun _ hc => absurd hc List.not_mem_nil⟩
    rcases first.literal_or_unfolds true hfirst with h | ⟨ways, hways, h⟩
    · rcases others.literal_or_unfolds hothers with h' | ⟨ways, hways, h'⟩
      · refine .inr ⟨_, List.forall_mem_map.2 fun p hp => ?_, unfolds_group h h' rest⟩
        rcases List.mem_cons.1 hp with rfl | hp
        · exact hfirst.append hrest
        · exact (hothers.of_mem p hp).append hrest
      · refine .inr ⟨ways.map fun y => .group first y rest, ?_, ?_⟩
        · exact List.forall_mem_map.2 fun y hy => ⟨hfirst, hways y hy, hrest⟩
        · have hfront : IsPlain (first.spell ++ [comma]) := h.plain.append isPlain_comma
          refine h'.within (fun y => Pattern.group first y rest) (opening :: (first.spell ++ [comma]))
            (closing :: rest.spell) (fun y => ?_) (hopens _ _) (fun tail => ?_)
            (fun a r => ∃ b ∈ rest.choices, r = a ++ b)
            (fun r => ∃ a ∈ first.choices, ∃ b ∈ rest.choices, r = a ++ b) fun y r => ?_
          · simp [Pattern.spell]
          · rw [List.cons_append, ← List.append_assoc, firstGroup?_opening (h'.opens.plain_append hfront),
              List.append_assoc, firstGroup?_plain_append hfront, Option.map_map]
            rfl
          · rw [Pattern.mem_choices_group]
            exact Or.comm
    · refine .inr ⟨ways.map fun y => .group y others rest, ?_, ?_⟩
      · exact List.forall_mem_map.2 fun y hy => ⟨hways y hy, hothers, hrest⟩
      · exact h.within (fun y => Pattern.group y others rest) [opening]
          (comma :: (others.spell ++ closing :: rest.spell)) (fun y => rfl) (hopens _ _) (fun tail => firstGroup?_opening h.opens tail)
          (fun a r => ∃ b ∈ rest.choices, r = a ++ b)
          (fun r => ∃ a ∈ others.choices, ∃ b ∈ rest.choices, r = a ++ b)
          fun y r => Pattern.mem_choices_group y rest others r

theorem Alternatives.literal_or_unfolds : ∀ a : Alternatives, a.AreProper →
    (∀ p ∈ a.toList, IsLiteral true p) ∨
      ∃ ways, (∀ y ∈ ways, y.AreProper) ∧ Unfolds Alternatives.spell Alternatives.choices a ways
  | .last p, hp => by
    rcases p.literal_or_unfolds true hp with h | ⟨ways, hways, h⟩
    · exact .inl (List.forall_mem_singleton.2 h)
    · refine .inr ⟨ways.map .last, List.forall_mem_map.2 hways, ?_⟩
      refine h.within Alternatives.last [] [] (fun y => ?_) h.opens (fun tail => ?_)
        (fun a r => a = r) (fun _ => False) fun y r => ?_
      · simp [Alternatives.spell]
      · exact Option.map_id'.symm
      · simp [Alternatives.choices]
  | .more p rest, ⟨hp, hrest⟩ => by
    rcases p.literal_or_unfolds true hp with h | ⟨ways, hways, h⟩
    · rcases rest.literal_or_unfolds hrest with h' | ⟨ways, hways, h'⟩
      · exact .inl (List.forall_mem_cons.2 ⟨h, h'⟩)
      · have hfront : IsPlain (p.spell ++ [comma]) := h.plain.append isPlain_comma
        have hspell (y : Alternatives) : (Alternatives.more p y).spell = p.spell ++ [comma] ++ (y.spell ++ []) := by
          simp [Alternatives.spell]
        refine .inr ⟨ways.map (.more p), List.forall_mem_map.2 fun y hy => ⟨hp, hways y hy⟩, ?_⟩
        refine h'.within (Alternatives.more p) (p.spell ++ [comma]) [] hspell ?_ (fun tail => firstGroup?_plain_append hfront _)
          (fun a r => a = r) (fun r => r ∈ p.choices) fun y r => ?_
        · rw [hspell, List.append_nil]
          exact h'.opens.plain_append hfront
        · simp [Alternatives.choices, or_comm]
    · refine .inr ⟨ways.map fun y => .more y rest, List.forall_mem_map.2 fun y hy => ⟨hways y hy, hrest⟩, ?_⟩
      refine h.within (fun y => Alternatives.more y rest) [] (comma :: rest.spell) (fun y => rfl)
        (h.opens.append _) (fun tail => ?_) (fun a r => a = r) (fun r => r ∈ rest.choices) fun y r => ?_
      · exact Option.map_id'.symm
      · simp [Alternatives.choices]

end

/-! ### The whole expansion -/

theorem mem_expand : r ∈ expand t ↔
    match firstGroup? t with
    | none => r = t
    | some g => ∃ option ∈ Text.cut comma g.inside, r ∈ expand (g.before ++ option ++ g.after) := by
  rw [expand]
  split
  next h => rw [h]; exact List.mem_singleton
  next g h =>
    rw [h]
    simp only [List.mem_eraseDups, List.mem_flatMap, List.mem_attach, true_and, Subtype.exists, exists_prop]

theorem count_way_lt {g : Group} (h : firstGroup? t = some g) {option : Text}
    (hoption : option ∈ Text.cut comma g.inside) :
    (g.before ++ option ++ g.after).count opening < t.count opening := by
  obtain ⟨hinside, hlt⟩ := count_firstGroup? h
  have hle := count_of_mem_cut hoption opening
  simp only [List.count_append]
  omega

theorem expand_induction {P : Text → Prop} (hnone : ∀ t, firstGroup? t = none → P t)
    (hsome : ∀ t g, firstGroup? t = some g →
      (∀ option ∈ Text.cut comma g.inside, P (g.before ++ option ++ g.after)) → P t) (t : Text) : P t := by
  induction hn : t.count opening using Nat.strongRecOn generalizing t with
  | ind n ih =>
    cases h : firstGroup? t with
    | none => exact hnone t h
    | some g => exact hsome t g h fun option hoption => ih _ (hn ▸ count_way_lt h hoption) _ rfl

theorem expand_ne_nil (t : Text) : expand t ≠ [] := by
  induction t using expand_induction with
  | hnone t h =>
    have ht : t ∈ expand t := by
      rw [mem_expand, h]
    exact List.ne_nil_of_mem ht
  | hsome t g h ih =>
    obtain ⟨option, hoption⟩ := List.exists_mem_of_ne_nil _ (Text.cut_ne_nil comma g.inside)
    obtain ⟨r, hr⟩ := List.exists_mem_of_ne_nil _ (ih option hoption)
    have ht : r ∈ expand t := by
      rw [mem_expand, h]
      exact ⟨option, hoption, hr⟩
    exact List.ne_nil_of_mem ht

theorem nodup_expand (t : Text) : (expand t).Nodup := by
  rw [expand]
  split
  · exact List.pairwise_singleton _ _
  · exact nodup_eraseDups _

theorem not_hasGroup_of_mem_expand (h : r ∈ expand t) : ¬ HasGroup r := by
  induction t using expand_induction with
  | hnone t hnone =>
    rw [mem_expand, hnone] at h
    rw [h]
    exact firstGroup?_eq_none.1 hnone
  | hsome t g hg ih =>
    rw [mem_expand, hg] at h
    obtain ⟨option, hoption, h⟩ := h
    exact ih option hoption h

theorem mem_expand_spell (hp : p.IsProper false) : r ∈ expand p.spell ↔ r ∈ p.choices := by
  induction hn : p.spell.count opening using Nat.strongRecOn generalizing p with
  | ind n ih =>
    rcases p.literal_or_unfolds false hp with h | ⟨ways, hways, h⟩
    · rw [mem_expand, firstGroup?_of_isPlain h.plain, h.choices]
    · obtain ⟨g, hg, htexts⟩ := h.first []
      simp only [List.append_nil] at hg htexts
      have hstep (y : Pattern) (hy : y ∈ ways) : r ∈ expand y.spell ↔ r ∈ y.choices := by
        have hmem : y.spell ∈ ways.map Pattern.spell := List.mem_map_of_mem hy
        rw [← htexts] at hmem
        obtain ⟨option, hoption, heq⟩ := List.mem_map.1 hmem
        exact ih _ (hn ▸ heq ▸ count_way_lt hg hoption) (hways y hy) rfl
      have hoptions : (∃ option ∈ Text.cut comma g.inside, r ∈ expand (g.before ++ option ++ g.after)) ↔
          ∃ y ∈ ways, r ∈ expand y.spell := by
        have hexists := congrArg (fun texts : List Text => ∃ t ∈ texts, r ∈ expand t) htexts
        simpa only [List.mem_map, exists_exists_and_eq_and] using iff_of_eq hexists
      rw [mem_expand, hg, h.choices]
      refine hoptions.trans ⟨?_, ?_⟩
      · rintro ⟨y, hy, hr⟩
        exact ⟨y, hy, (hstep y hy).1 hr⟩
      · rintro ⟨y, hy, hr⟩
        exact ⟨y, hy, (hstep y hy).2 hr⟩

/-- Every pattern comes to some texts, each once and none with a group left in it; and a pattern that is
built from groups comes to just the texts that one alternative of each group gives. -/
theorem expand_complete :
    (∀ t, expand t ≠ [] ∧ (expand t).Nodup ∧ ∀ r ∈ expand t, ¬ HasGroup r) ∧
    ∀ p : Pattern, p.IsProper false → ∀ r, r ∈ expand p.spell ↔ r ∈ p.choices :=
  ⟨fun t => ⟨expand_ne_nil t, nodup_expand t, fun _ hr => not_hasGroup_of_mem_expand hr⟩,
    fun _ hp _ => mem_expand_spell hp⟩

def Pattern.ofText (t : Text) (rest : Pattern) : Pattern := t.foldr .char rest

/-- A pattern with a group in an alternative of a group. -/
def nested : Pattern := .ofText "a/" (.group (.ofText "b" .done)
  (.last (.ofText "c/" (.group (.ofText "d" .done) (.last (.ofText "e" .done)) .done))) .done)

/-- The inner group is expanded in the text first, with the outer alternative beside it. -/
theorem expand_complete_nested (r : Text) : r ∈ expand "a/\x7bb,c/\x7bd,e\x7d\x7d" ↔
    r ∈ [("a/b" : Text), "a/c/d", "a/c/e"] := by
  have hproper : nested.IsProper false := by decide
  have hspell : nested.spell = "a/\x7bb,c/\x7bd,e\x7d\x7d" := by decide
  have hchoices : nested.choices = [("a/b" : Text), "a/c/d", "a/c/e"] := by decide
  rw [← hspell, ← hchoices]
  exact expand_complete.2 nested hproper r

end Phrasebook.Braces
