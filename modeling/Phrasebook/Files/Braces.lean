import Phrasebook.Text.Basic

/-!
Brace expansion: `*.{js,ts}` stands for `*.js` and `*.ts`. Groups are expanded from the inside.
-/

namespace Phrasebook.Braces

def opening : CodePoint := CodePoint.ofNat 0x7B

def closing : CodePoint := CodePoint.ofNat 0x7D

def comma : CodePoint := CodePoint.ofChar ','

def isBrace (c : CodePoint) : Bool := c == opening || c == closing

structure Group where
  before : Text
  inside : Text
  after : Text

/-- The group whose opening brace stands just before a text: no braces inside, and a comma. -/
def groupAt? (t : Text) : Option Group :=
  let inside := t.takeWhile fun c => !isBrace c
  match t.dropWhile fun c => !isBrace c with
  | c :: after => if c = closing ∧ comma ∈ inside then some ⟨[], inside, after⟩ else none
  | [] => none

def firstGroup? : Text → Option Group
  | [] => none
  | c :: rest =>
    match if c = opening then groupAt? rest else none with
    | some g => some g
    | none => (firstGroup? rest).map fun g => { g with before := c :: g.before }

theorem count_groupAt? {t : Text} {g : Group} (h : groupAt? t = some g) :
    g.before = [] ∧ g.inside.count opening = 0 ∧ g.after.count opening ≤ t.count opening := by
  unfold groupAt? at h
  split at h
  · rename_i c after hd
    dsimp only at h
    split at h
    · rename_i hc
      cases h
      refine ⟨rfl, ?_, ?_⟩
      · rw [List.count_eq_zero]
        intro hm
        have := List.all_eq_true.1 List.all_takeWhile _ hm
        simp [isBrace] at this
      · have : (c :: after).Sublist t := hd ▸ List.dropWhile_sublist _
        exact (List.sublist_of_cons_sublist this).count_le _
    · cases h
  · cases h

theorem count_firstGroup? {t : Text} {g : Group} (h : firstGroup? t = some g) :
    g.inside.count opening = 0 ∧
      g.before.count opening + g.after.count opening < t.count opening := by
  induction t generalizing g with
  | nil => simp [firstGroup?] at h
  | cons c rest ih =>
    unfold firstGroup? at h
    split at h
    · rename_i g' hg
      cases h
      split at hg
      · rename_i hc
        obtain ⟨hb, hi, ha⟩ := count_groupAt? hg
        subst hc
        refine ⟨hi, ?_⟩
        rw [hb, List.count_cons_self]
        simp only [List.count_nil]
        omega
      · cases hg
    · obtain ⟨g', hg', rfl⟩ := Option.map_eq_some_iff.1 h
      obtain ⟨hi, ha⟩ := ih hg'
      refine ⟨hi, ?_⟩
      simp only [List.count_cons]
      omega

theorem count_of_mem_cut {sep : CodePoint} {t piece : Text} (h : piece ∈ Text.cut sep t)
    (x : CodePoint) : piece.count x ≤ t.count x := by
  induction t generalizing piece with
  | nil =>
    simp only [Text.cut, List.mem_singleton] at h
    subst h
    simp
  | cons c rest ih =>
    unfold Text.cut at h
    split at h
    · rcases List.mem_cons.1 h with rfl | h
      · simp
      · exact Nat.le_trans (ih h) (by simp [List.count_cons])
    · split at h
      · simp only [List.mem_singleton] at h
        subst h
        simp [List.count_cons]
      · rename_i p ps hp
        rcases List.mem_cons.1 h with rfl | h
        · have hmem : p ∈ Text.cut sep rest := hp ▸ List.mem_cons_self
          have := ih hmem
          simp only [List.count_cons]
          omega
        · have hmem : piece ∈ Text.cut sep rest := hp ▸ List.mem_cons_of_mem _ h
          have := ih hmem
          simp only [List.count_cons]
          omega

/-- Every way to choose one alternative of each group, in order and without repetitions. -/
def expand (pattern : Text) : List Text :=
  match _found : firstGroup? pattern with
  | none => [pattern]
  | some g =>
    ((Text.cut comma g.inside).attach.flatMap fun ⟨option, _⟩ =>
      expand (g.before ++ option ++ g.after)).eraseDups
termination_by pattern.count opening
decreasing_by
  rename_i hm
  obtain ⟨hi, hlt⟩ := count_firstGroup? _found
  have := count_of_mem_cut hm opening
  simp only [List.count_append]
  omega

end Phrasebook.Braces
