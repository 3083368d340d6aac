import Mathlib.Data.List.Nodup
import Mathlib.Data.List.Perm.Subperm
import Mathlib.Tactic.Common
import Phrasebook.Wrap.Placeholder

/-! How the expressions of a template get their names. An expression has its own name unless another
text holds it; then it is named by its position, with a number behind if need be. The search for that
number ends, and a name stands for one text only. -/

namespace Phrasebook

theorem CodePoint.ofChar_injective : Function.Injective CodePoint.ofChar := by
  intro c d h
  have hval : c.toNat = d.toNat := congrArg CodePoint.val h
  exact Char.ext (UInt32.toNat_inj.1 hval)

theorem Text.ofNat_injective : Function.Injective Text.ofNat := by
  intro m n h
  simp only [Text.ofNat, Text.ofString, String.toList_ofList] at h
  have hdigits := congrArg (Nat.ofDigitChars 10 · 0) (List.map_injective_iff.2 CodePoint.ofChar_injective h)
  simpa only [Nat.ofDigitChars_ten_toDigits] using hdigits

namespace Placeholder

variable {owners : Owners} {base text name : Text} {k m i : Nat} {es : List (Option Text × Text)}
  {names : List Text}

def attempt (base : Text) : Nat → Text
  | 0 => base
  | k + 1 => base ++ "_" ++ Text.ofNat (k + 1)

theorem attempt_injective (base : Text) : Function.Injective (attempt base) := by
  have hlonger (k : Nat) : attempt base (k + 1) ≠ base := by
    intro h
    have hlength := congrArg List.length h
    simp [attempt, Text.ofString] at hlength
  intro m n h
  cases m with
  | zero =>
    cases n with
    | zero => rfl
    | succ n => exact (hlonger n h.symm).elim
  | succ m =>
    cases n with
    | zero => exact (hlonger m h).elim
    | succ n =>
      simp only [attempt] at h
      exact Text.ofNat_injective (List.append_cancel_left h)

/-- The search for a name that no other text holds, from the `k`-th attempt on, and what it finds. -/
inductive Finds (owners : Owners) (base text : Text) : Nat → Text → Prop
  | free {k : Nat} (h : isTaken owners (attempt base k) text = false) :
      Finds owners base text k (attempt base k)
  | taken {k : Nat} {name : Text} (h : isTaken owners (attempt base k) text = true)
      (hnext : Finds owners base text (k + 1) name) : Finds owners base text k name

theorem Finds.not_taken (h : Finds owners base text k name) : isTaken owners name text = false := by
  induction h with
  | free h => exact h
  | taken _ _ ih => exact ih

theorem Finds.exists_attempt (h : Finds owners base text k name) : ∃ m, name = attempt base m := by
  induction h with
  | @free k _ => exact ⟨k, rfl⟩
  | taken _ _ ih => exact ih

theorem mem_of_isTaken (h : isTaken owners name text = true) : name ∈ owners.map (·.1) := by
  unfold isTaken at h
  split at h
  next held owner hfound =>
    have hname : held = name := by simpa using List.find?_some hfound
    exact List.mem_map.2 ⟨_, List.mem_of_find?_eq_some hfound, hname⟩
  next => cases h

theorem exists_free (owners : Owners) (base text : Text) :
    ∃ m ≤ owners.length, isTaken owners (attempt base m) text = false := by
  by_contra hnone
  push Not at hnone
  have hsub : (List.range (owners.length + 1)).map (attempt base) ⊆ owners.map (·.1) := by
    intro name hname
    obtain ⟨m, hm, rfl⟩ := List.mem_map.1 hname
    have hle : m ≤ owners.length := Nat.lt_succ_iff.1 (List.mem_range.1 hm)
    exact mem_of_isTaken (by simpa using hnone m hle)
  have hnodup : ((List.range (owners.length + 1)).map (attempt base)).Nodup :=
    List.Nodup.map (attempt_injective base) List.nodup_range
  have hlength := (List.subperm_of_subset hnodup hsub).length_le
  rw [List.length_map, List.length_range, List.length_map] at hlength
  omega

theorem finds_firstFree {fuel : Nat} (hkm : k ≤ m) (hm : m < k + fuel)
    (hfree : isTaken owners (attempt base m) text = false) :
    Finds owners base text k (firstFree owners base text fuel (k + 1) (attempt base k)) := by
  induction fuel generalizing k with
  | zero => omega
  | succ fuel ih =>
    rw [firstFree]
    split
    next htaken =>
      have hne : m ≠ k := by
        rintro rfl
        rw [hfree] at htaken
        cases htaken
      exact .taken htaken (ih (by omega) (by omega))
    next htaken => exact .free (by simpa using htaken)

theorem finds_of_firstFree (owners : Owners) (base text : Text) :
    Finds owners base text 0 (firstFree owners base text (owners.length + 1) 1 base) := by
  obtain ⟨m, hm, hfree⟩ := exists_free owners base text
  exact finds_firstFree (Nat.zero_le m) (by omega) hfree

def ownName (i : Nat) : Option Text → Text
  | some (c :: rest) => c :: rest
  | _ => positional i

/-- Who holds which name once `name` is given to `text`: the first text to get a name keeps it. -/
def hold (owners : Owners) (name text : Text) : Owners :=
  if owners.any fun o => o.1 == name then owners else owners ++ [(name, text)]

/-- Names given to expressions one after the other, each of them told by the name it has of itself and
by its text. An expression gets its own name, or, where another text holds that, what the search from
its position's name on finds. -/
inductive Assigns : Owners → Nat → List (Option Text × Text) → List Text → Prop
  | nil {owners : Owners} {i : Nat} : Assigns owners i [] []
  | own {owners : Owners} {i : Nat} {derived : Option Text} {text : Text}
      {rest : List (Option Text × Text)} {names : List Text}
      (hown : isTaken owners (ownName i derived) text = false)
      (hrest : Assigns (hold owners (ownName i derived) text) (i + 1) rest names) :
      Assigns owners i ((derived, text) :: rest) (ownName i derived :: names)
  | found {owners : Owners} {i : Nat} {derived : Option Text} {text name : Text}
      {rest : List (Option Text × Text)} {names : List Text}
      (hown : isTaken owners (ownName i derived) text = true)
      (hname : Finds owners (positional i) text 0 name)
      (hrest : Assigns (hold owners name text) (i + 1) rest names) :
      Assigns owners i ((derived, text) :: rest) (name :: names)

theorem assigns_namesFrom (owners : Owners) (i : Nat) (es : List (Option Text × Text)) :
    Assigns owners i es (namesFrom owners i es) := by
  induction es generalizing owners i with
  | nil => exact .nil
  | cons e rest ih =>
    obtain ⟨derived, text⟩ := e
    have hname : nameFor owners i derived text =
        if isTaken owners (ownName i derived) text then
          firstFree owners (positional i) text (owners.length + 1) 1 (positional i)
        else ownName i derived := rfl
    rw [namesFrom]
    cases hown : isTaken owners (ownName i derived) text with
    | true =>
      rw [hown, if_pos rfl] at hname
      rw [hname]
      exact .found hown (finds_of_firstFree owners (positional i) text) (ih _ _)
    | false =>
      rw [hown, if_neg Bool.false_ne_true] at hname
      rw [hname]
      exact .own hown (ih _ _)

theorem find?_hold (h : isTaken owners name text = false) :
    (hold owners name text).find? (fun o => o.1 == name) = some (name, text) := by
  unfold isTaken at h
  unfold hold
  split at h
  next held owner hfound =>
    have hheld : held = name := by simpa using List.find?_some hfound
    have howner : owner = text := by simpa using h
    subst hheld howner
    have hany : (owners.any fun o => o.1 == held) = true :=
      List.any_eq_true.2 ⟨_, List.mem_of_find?_eq_some hfound, beq_self_eq_true held⟩
    rw [if_pos hany, hfound]
  next hnone =>
    have hany : (owners.any fun o => o.1 == name) = false := by
      simpa [List.find?_eq_none] using hnone
    rw [hany, if_neg Bool.false_ne_true, List.find?_append, hnone]
    simp

theorem find?_hold_of_find? {other : Text} {o : Text × Text}
    (h : owners.find? (fun o => o.1 == other) = some o) :
    (hold owners name text).find? (fun o => o.1 == other) = some o := by
  unfold hold
  split
  · exact h
  · rw [List.find?_append, h]
    rfl

theorem Assigns.keeps (h : Assigns owners i es names) :
    ∀ p ∈ names.zip (es.map (·.2)), ∀ o, owners.find? (fun o => o.1 == p.1) = some o → o.2 = p.2 := by
  have hfirst {owners : Owners} {name text : Text} (hfree : isTaken owners name text = false)
      {o : Text × Text} (ho : owners.find? (fun o => o.1 == name) = some o) : o.2 = text := by
    have hheld : (hold owners name text).find? (fun o => o.1 == name) = some o := find?_hold_of_find? ho
    rw [find?_hold hfree] at hheld
    cases hheld
    rfl
  induction h with
  | nil => simp
  | own hown _ ih =>
    rw [List.map_cons, List.zip_cons_cons, List.forall_mem_cons]
    exact ⟨fun o => hfirst hown, fun p hp o ho => ih p hp o (find?_hold_of_find? ho)⟩
  | found _ hname _ ih =>
    rw [List.map_cons, List.zip_cons_cons, List.forall_mem_cons]
    exact ⟨fun o => hfirst hname.not_taken, fun p hp o ho => ih p hp o (find?_hold_of_find? ho)⟩

theorem Assigns.pairwise (h : Assigns owners i es names) :
    (names.zip (es.map (·.2))).Pairwise fun p q => p.1 = q.1 → p.2 = q.2 := by
  have hstep {owners : Owners} {name text : Text} {i : Nat} {rest : List (Option Text × Text)}
      {names : List Text} (hfree : isTaken owners name text = false)
      (hrest : Assigns (hold owners name text) i rest names) :
      ∀ q ∈ names.zip (rest.map (·.2)), name = q.1 → text = q.2 := by
    rintro q hq rfl
    exact hrest.keeps q hq _ (find?_hold hfree)
  induction h with
  | nil => simp
  | own hown hrest ih =>
    rw [List.map_cons, List.zip_cons_cons, List.pairwise_cons]
    exact ⟨hstep hown hrest, ih⟩
  | found _ hname hrest ih =>
    rw [List.map_cons, List.zip_cons_cons, List.pairwise_cons]
    exact ⟨hstep hname.not_taken hrest, ih⟩

theorem Assigns.length (h : Assigns owners i es names) : names.length = es.length := by
  induction h with
  | nil => rfl
  | own _ _ ih => exact congrArg (· + 1) ih
  | found _ _ _ ih => exact congrArg (· + 1) ih

theorem Assigns.forall_mem {P : Text → Prop} (h : Assigns owners i es names)
    (hown : ∀ e ∈ es, ∀ name ∈ e.1, name ≠ [] → P name) (hmade : ∀ i k, P (attempt (positional i) k)) :
    ∀ name ∈ names, P name := by
  have hfirst {derived : Option Text} {i : Nat} (hderived : ∀ name ∈ derived, name ≠ [] → P name) :
      P (ownName i derived) := by
    unfold ownName
    split
    next c rest => exact hderived _ rfl (by simp)
    next => exact hmade i 0
  induction h with
  | nil => simp
  | own _ _ ih =>
    rw [List.forall_mem_cons] at hown ⊢
    exact ⟨hfirst hown.1, ih hown.2⟩
  | found _ hname _ ih =>
    rw [List.forall_mem_cons] at hown ⊢
    obtain ⟨k, rfl⟩ := hname.exists_attempt
    exact ⟨hmade _ k, ih hown.2⟩

/-- Expressions by what their names are given by: the name each has of itself, and its text. -/
def described (source : Bytes) (expressions : List Node) : List (Option Text × Text) :=
  expressions.map fun e => (derived? source e, e.textD source)

theorem assigns_names (source : Bytes) (expressions : List Node) :
    Assigns [] 0 (described source expressions) (Placeholder.names source expressions) := assigns_namesFrom [] 0 _

theorem length_names (source : Bytes) (expressions : List Node) :
    (Placeholder.names source expressions).length = expressions.length := by
  rw [(assigns_names source expressions).length, described, List.length_map]

section FirstUses

variable {α : Type} {seen : List Text} {pairs : List (Text × α)}

theorem map_firstUses (seen : List Text) (pairs : List (Text × α)) :
    (firstUses seen pairs).map (·.1) =
      ((pairs.map (·.1)).filter fun name => !seen.contains name).eraseDups := by
  induction pairs generalizing seen with
  | nil => rfl
  | cons p rest ih =>
    obtain ⟨name, a⟩ := p
    rw [firstUses, List.map_cons, List.filter_cons]
    split
    next hseen => rw [ih, if_neg (by simpa using hseen)]
    next hseen =>
      rw [if_pos (by simpa using hseen), List.eraseDups_cons, List.map_cons, ih, List.filter_filter]
      congr 2
      refine List.filter_congr fun other _ => ?_
      rw [List.contains_cons, Bool.not_or]

theorem map_firstUses_nil (pairs : List (Text × α)) :
    (firstUses [] pairs).map (·.1) = (pairs.map (·.1)).eraseDups := by
  rw [map_firstUses, List.filter_eq_self.2]
  exact fun _ _ => rfl

theorem fst_notMem_of_mem_firstUses {p : Text × α} (h : p ∈ firstUses seen pairs) : p.1 ∉ seen := by
  induction pairs generalizing seen with
  | nil => cases h
  | cons q rest ih =>
    rw [firstUses] at h
    split at h
    next => exact ih h
    next hq =>
      obtain rfl | h := List.mem_cons.1 h
      · simpa using hq
      · exact fun hseen => ih h (List.mem_cons_of_mem _ hseen)

theorem find?_of_mem_firstUses {p : Text × α} (h : p ∈ firstUses seen pairs) :
    pairs.find? (fun q => q.1 == p.1) = some p := by
  induction pairs generalizing seen with
  | nil => cases h
  | cons q rest ih =>
    rw [firstUses] at h
    split at h
    next hq =>
      have hne : q.1 ≠ p.1 := by
        intro heq
        rw [heq] at hq
        exact fst_notMem_of_mem_firstUses h (by simpa using hq)
      rw [List.find?_cons_of_neg (by simpa using hne)]
      exact ih h
    next hq =>
      obtain rfl | h := List.mem_cons.1 h
      · rw [List.find?_cons_of_pos (by simp)]
      · have hne : q.1 ≠ p.1 := fun heq =>
          fst_notMem_of_mem_firstUses h (heq ▸ List.mem_cons_self)
        rw [List.find?_cons_of_neg (by simpa using hne)]
        exact ih h

end FirstUses

end Placeholder

end Phrasebook
