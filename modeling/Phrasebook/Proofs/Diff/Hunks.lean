import Phrasebook.Diff.Unified
import Phrasebook.Proofs.Diff.Blocks

/-! The hunks of two texts: with the equal lines between them they are all of both texts, and a text has
none with itself. -/

namespace Phrasebook.Diff

variable {left right : List Text} {i j k m n i' j' : Nat} {s : Stretch} {sts current : List Stretch}

structure Stretch.Lies (s : Stretch) (left right : List Text) : Prop where
  left_le : s.leftStart ≤ s.leftStop
  left_stop : s.leftStop ≤ left.length
  right_le : s.rightStart ≤ s.rightStop
  right_stop : s.rightStop ≤ right.length
  same : s.isEqual = true → s.leftStop - s.leftStart = s.rightStop - s.rightStart ∧
    Same left right s.leftStart s.rightStart (s.leftStop - s.leftStart)

def Runs (left right : List Text) : Nat → Nat → List Stretch → Nat → Nat → Prop
  | i, j, [], i', j' => i = i' ∧ j = j'
  | i, j, s :: rest, i', j' => (s.leftStart = i ∧ s.rightStart = j ∧ s.Lies left right) ∧
      Runs left right s.leftStop s.rightStop rest i' j'

theorem Runs.append {sts' : List Stretch} (h : Runs left right i j sts m n)
    (h' : Runs left right m n sts' i' j') : Runs left right i j (sts ++ sts') i' j' := by
  induction sts generalizing i j with
  | nil =>
    obtain ⟨rfl, rfl⟩ := h
    exact h'
  | cons s rest ih => exact ⟨h.1, ih h.2⟩

theorem runs_singleton (h : s.Lies left right) :
    Runs left right s.leftStart s.rightStart [s] s.leftStop s.rightStop :=
  ⟨⟨rfl, rfl, h⟩, rfl, rfl⟩

theorem runs_stretchesFrom {bs : List Block} (h : Steps left right i j bs left.length right.length) :
    Runs left right i j (stretchesFrom i j (bs ++ [⟨left.length, right.length, 0⟩])) left.length
      right.length := by
  induction bs generalizing i j with
  | nil =>
    obtain ⟨hi, hj⟩ := h
    rw [List.nil_append, stretchesFrom, stretchesFrom]
    dsimp only
    rw [if_pos rfl, List.append_nil, List.append_nil]
    split
    next => exact runs_singleton ⟨hi, Nat.le_refl _, hj, Nat.le_refl _, fun h => by cases h⟩
    next hnone =>
      simp only [Bool.or_eq_true, decide_eq_true_eq, not_or] at hnone
      exact ⟨by omega, by omega⟩
  | cons b rest ih =>
    obtain ⟨⟨hi, hj, hsame⟩, hrest⟩ := h
    have hleft := hsame.left_le
    have hright := hsame.right_le
    rw [List.cons_append, stretchesFrom]
    refine Runs.append (m := b.left + b.size) (n := b.right + b.size) (Runs.append (m := b.left) (n := b.right)
      ?changed ?equal) (ih hrest)
    case changed =>
      split
      next => exact runs_singleton ⟨hi, by show b.left ≤ _; omega, hj, by show b.right ≤ _; omega,
        fun h => by cases h⟩
      next hnone =>
        simp only [Bool.or_eq_true, decide_eq_true_eq, not_or] at hnone
        exact ⟨by omega, by omega⟩
    case equal =>
      split
      next hzero => exact ⟨by omega, by omega⟩
      next =>
        refine runs_singleton ⟨Nat.le_add_right _ _, hleft, Nat.le_add_right _ _, hright, fun _ => ?_⟩
        dsimp only
        rw [Nat.add_sub_cancel_left, Nat.add_sub_cancel_left]
        exact ⟨rfl, hsame⟩

theorem runs_stretches (left right : List Text) :
    Runs left right 0 0 (stretches left right) left.length right.length :=
  runs_stretchesFrom (steps_blocks left right)

def EndsSame (left right : List Text) (i j : Nat) : Prop :=
  ∃ k, Same left right i j k ∧ i + k = left.length ∧ j + k = right.length

theorem EndsSame.before (h : Same left right i j k) (h' : EndsSame left right (i + k) (j + k)) :
    EndsSame left right i j := by
  obtain ⟨k', hsame, hleft, hright⟩ := h'
  exact ⟨k + k', h.append hsame, by omega, by omega⟩

/-- Hunks with the same lines between them, before the first and behind the last. -/
def Covers (left right : List Text) : Nat → Nat → List (List Stretch) → Prop
  | i, j, [] => EndsSame left right i j
  | i, j, hunk :: rest => ∃ k m n, Same left right i j k ∧ Runs left right (i + k) (j + k) hunk m n ∧
      Covers left right m n rest

variable {hs : List (List Stretch)}

theorem Covers.before (h : Same left right i j k) (h' : Covers left right (i + k) (j + k) hs) :
    Covers left right i j hs := by
  cases hs with
  | nil => exact EndsSame.before h h'
  | cons hunk rest =>
    obtain ⟨k', m, n, hsame, hrun, hrest⟩ := h'
    exact ⟨k + k', m, n, h.append hsame, by rwa [← Nat.add_assoc, ← Nat.add_assoc], hrest⟩

theorem Stretch.Lies.head (h : s.Lies left right) (hequal : s.isEqual = true) :
    s.head.Lies left right ∧ ∃ k, Same left right s.head.leftStop s.head.rightStop k ∧
      s.head.leftStop + k = s.leftStop ∧ s.head.rightStop + k = s.rightStop := by
  obtain ⟨hsize, hsame⟩ := h.same hequal
  have hl := h.left_le
  have hr := h.right_le
  have hlt := h.left_stop
  have hrt := h.right_stop
  unfold Stretch.head context
  constructor
  · refine ⟨by dsimp only; omega, by dsimp only; omega, by dsimp only; omega, by dsimp only; omega, fun _ => ?_⟩
    dsimp only
    refine ⟨by omega, ?_⟩
    have hpart := hsame.part (a := 0) (m := min s.leftStop (s.leftStart + 3) - s.leftStart) (by omega)
    rwa [Nat.add_zero, Nat.add_zero] at hpart
  · dsimp only
    have hpart := hsame.part (a := min s.leftStop (s.leftStart + 3) - s.leftStart)
      (m := s.leftStop - min s.leftStop (s.leftStart + 3)) (by omega)
    rw [show s.leftStart + (min s.leftStop (s.leftStart + 3) - s.leftStart) =
        min s.leftStop (s.leftStart + 3) by omega,
      show s.rightStart + (min s.leftStop (s.leftStart + 3) - s.leftStart) =
        min s.rightStop (s.rightStart + 3) by omega] at hpart
    exact ⟨_, hpart, by omega, by omega⟩

theorem Stretch.Lies.tail (h : s.Lies left right) (hequal : s.isEqual = true) :
    s.tail.Lies left right ∧ ∃ k, Same left right s.leftStart s.rightStart k ∧
      s.leftStart + k = s.tail.leftStart ∧ s.rightStart + k = s.tail.rightStart := by
  obtain ⟨hsize, hsame⟩ := h.same hequal
  have hl := h.left_le
  have hr := h.right_le
  have hlt := h.left_stop
  have hrt := h.right_stop
  unfold Stretch.tail context
  constructor
  · refine ⟨by dsimp only; omega, by dsimp only; omega, by dsimp only; omega, by dsimp only; omega, fun _ => ?_⟩
    dsimp only
    refine ⟨by omega, ?_⟩
    have hpart := hsame.part (a := max s.leftStart (s.leftStop - 3) - s.leftStart)
      (m := s.leftStop - max s.leftStart (s.leftStop - 3)) (by omega)
    rwa [show s.leftStart + (max s.leftStart (s.leftStop - 3) - s.leftStart) =
        max s.leftStart (s.leftStop - 3) by omega,
      show s.rightStart + (max s.leftStart (s.leftStop - 3) - s.leftStart) =
        max s.rightStart (s.rightStop - 3) by omega] at hpart
  · dsimp only
    have hpart := hsame.part (a := 0) (m := max s.leftStart (s.leftStop - 3) - s.leftStart) (by omega)
    rw [Nat.add_zero, Nat.add_zero] at hpart
    exact ⟨_, hpart, by omega, by omega⟩

theorem covers_hunksFrom (hgap : Same left right i j k) (hcurrent : Runs left right (i + k) (j + k) current m n)
    (hrest : Runs left right m n sts i' j') (hend : EndsSame left right i' j') :
    Covers left right i j (hunksFrom current sts) := by
  induction sts generalizing i j k current m n with
  | nil =>
    obtain ⟨rfl, rfl⟩ := hrest
    exact ⟨k, m, n, hgap, hcurrent, hend⟩
  | cons s rest ih =>
    obtain ⟨⟨rfl, rfl, hs⟩, hrest⟩ := hrest
    rw [hunksFrom]
    split
    next hlong =>
      simp only [Bool.and_eq_true, decide_eq_true_eq] at hlong
      obtain ⟨hequal, hlong⟩ := hlong
      obtain ⟨hhead, -⟩ := hs.head hequal
      obtain ⟨htail, -⟩ := hs.tail hequal
      obtain ⟨hsize, hsame⟩ := hs.same hequal
      refine ⟨k, s.head.leftStop, s.head.rightStop, hgap, hcurrent.append (runs_singleton hhead), ?_⟩
      have hleft : s.head.leftStop + (s.leftStop - s.leftStart - 2 * context) = s.tail.leftStart := by
        simp only [Stretch.head, Stretch.tail, context] at hlong ⊢
        omega
      have hright : s.head.rightStop + (s.leftStop - s.leftStart - 2 * context) = s.tail.rightStart := by
        simp only [Stretch.head, Stretch.tail, context] at hlong ⊢
        omega
      have hbetween : Same left right s.head.leftStop s.head.rightStop (s.leftStop - s.leftStart - 2 * context) := by
        have hpart := hsame.part (a := context) (m := s.leftStop - s.leftStart - 2 * context) (by omega)
        rwa [show s.leftStart + context = s.head.leftStop by
            simp only [Stretch.head, context] at hlong ⊢
            omega,
          show s.rightStart + context = s.head.rightStop by
            simp only [Stretch.head, context] at hlong ⊢
            omega] at hpart
      refine ih hbetween ?_ hrest
      rw [hleft, hright]
      exact runs_singleton htail
    next => exact ih hgap (hcurrent.append (runs_singleton hs)) hrest

theorem runs_trimFirst (h : Runs left right i j sts i' j') (hi : i ≤ left.length) (hj : j ≤ right.length) :
    ∃ k, Same left right i j k ∧ Runs left right (i + k) (j + k) (trimFirst sts) i' j' := by
  cases sts with
  | nil => exact ⟨0, same_zero hi hj, h⟩
  | cons s rest =>
    obtain ⟨⟨rfl, rfl, hs⟩, hrest⟩ := h
    rw [trimFirst]
    split
    next hequal =>
      obtain ⟨htail, k, hsame, hleft, hright⟩ := hs.tail hequal
      exact ⟨k, hsame, ⟨hleft.symm, hright.symm, htail⟩, hrest⟩
    next => exact ⟨0, same_zero hi hj, ⟨rfl, rfl, hs⟩, hrest⟩

theorem runs_trimLast (h : Runs left right i j sts left.length right.length) :
    ∃ m n, Runs left right i j (trimLast sts) m n ∧ EndsSame left right m n := by
  have hend : EndsSame left right left.length right.length :=
    ⟨0, same_zero (Nat.le_refl _) (Nat.le_refl _), rfl, rfl⟩
  induction sts generalizing i j with
  | nil => exact ⟨_, _, h, hend⟩
  | cons s rest ih =>
    cases rest with
    | nil =>
      obtain ⟨⟨rfl, rfl, hs⟩, hleft, hright⟩ := h
      rw [trimLast]
      split
      next hequal =>
        obtain ⟨hhead, k, hsame, hleft', hright'⟩ := hs.head hequal
        exact ⟨_, _, runs_singleton hhead, k, hsame, hleft'.trans hleft, hright'.trans hright⟩
      next => exact ⟨_, _, ⟨⟨rfl, rfl, hs⟩, hleft, hright⟩, hend⟩
    | cons s' rest =>
      obtain ⟨hs, hrest⟩ := h
      obtain ⟨m, n, hrun, hsame⟩ := ih hrest
      exact ⟨m, n, ⟨hs, hrun⟩, hsame⟩

theorem same_of_dropped {hunk : List Stretch} (h : Runs left right i j hunk m n) (hi : i ≤ left.length)
    (hj : j ≤ right.length) (hdropped : (!hunk.isEmpty && !(hunk.length == 1 && hunk.all (·.isEqual))) = false) :
    ∃ k, Same left right i j k ∧ i + k = m ∧ j + k = n := by
  match hunk, h with
  | [], h => exact ⟨0, same_zero hi hj, h⟩
  | [s], h =>
    obtain ⟨⟨rfl, rfl, hs⟩, rfl, rfl⟩ := h
    obtain ⟨hsize, hsame⟩ := hs.same (by simpa using hdropped)
    have hl := hs.left_le
    have hr := hs.right_le
    exact ⟨_, hsame, by omega, by omega⟩
  | s :: s' :: rest, _ => simp at hdropped

theorem Runs.le (h : Runs left right i j sts m n) (hi : i ≤ left.length) (hj : j ≤ right.length) :
    m ≤ left.length ∧ n ≤ right.length := by
  induction sts generalizing i j with
  | nil =>
    obtain ⟨rfl, rfl⟩ := h
    exact ⟨hi, hj⟩
  | cons s rest ih =>
    obtain ⟨⟨-, -, hs⟩, hrest⟩ := h
    exact ih hrest hs.left_stop hs.right_stop

theorem Covers.filter (h : Covers left right i j hs) : Covers left right i j
    (hs.filter fun h => !h.isEmpty && !(h.length == 1 && h.all (·.isEqual))) := by
  induction hs generalizing i j with
  | nil => exact h
  | cons hunk rest ih =>
    obtain ⟨k, m, n, hgap, hrun, hrest⟩ := h
    cases hkept : !hunk.isEmpty && !(hunk.length == 1 && hunk.all (·.isEqual)) with
    | true =>
      rw [List.filter_cons, if_pos hkept]
      exact ⟨k, m, n, hgap, hrun, ih hrest⟩
    | false =>
      rw [List.filter_cons, if_neg (by rw [hkept]; decide)]
      obtain ⟨k', hsame, rfl, rfl⟩ := same_of_dropped hrun hgap.left_le hgap.right_le hkept
      exact Covers.before hgap (Covers.before hsame (ih hrest))

theorem covers_hunks (left right : List Text) : Covers left right 0 0 (hunks left right) := by
  obtain ⟨k, hsame, hfirst⟩ := runs_trimFirst (runs_stretches left right) (Nat.zero_le _) (Nat.zero_le _)
  obtain ⟨m, n, hrun, hend⟩ := runs_trimLast hfirst
  have hnothing : Runs left right (0 + k) (0 + k) [] (0 + k) (0 + k) := ⟨rfl, rfl⟩
  exact (covers_hunksFrom hsame hnothing hrun hend).filter

theorem ne_nil_of_mem_hunks {hunk : List Stretch} (h : hunk ∈ hunks left right) : hunk ≠ [] := by
  obtain ⟨-, hkept⟩ := List.mem_filter.1 h
  intro hnil
  rw [hnil] at hkept
  cases hkept

theorem hunks_self (lines : List Text) : hunks lines lines = [] := by
  unfold hunks stretches
  rw [blocks_self]
  by_cases hnil : lines = []
  · rw [hnil]
    rfl
  · rw [if_neg hnil]
    have hlength : ¬ lines.length = 0 := by simpa using hnil
    have hall : stretchesFrom 0 0 ([⟨0, 0, lines.length⟩] ++ [⟨lines.length, lines.length, 0⟩]) =
        [⟨true, 0, lines.length, 0, lines.length⟩] := by
      simp [stretchesFrom, hlength]
    generalize hs : (⟨true, 0, lines.length, 0, lines.length⟩ : Stretch) = s at hall
    have hequal : s.isEqual = true := by rw [← hs]
    have hshort : ¬ 2 * context < s.tail.head.leftStop - s.tail.head.leftStart := by
      simp only [Stretch.head, Stretch.tail, context]
      omega
    have hcut : ¬ (s.tail.head.isEqual && 2 * context < s.tail.head.leftStop - s.tail.head.leftStart) = true := by
      rw [decide_eq_false hshort, Bool.and_false]
      decide
    have hone : (!([s.tail.head].length == 1 && [s.tail.head].all (·.isEqual))) = false := by
      simp [Stretch.head, Stretch.tail, hequal]
    rw [hall, trimFirst, if_pos hequal, trimLast, if_pos (show s.tail.isEqual = true from hequal), hunksFrom,
      if_neg hcut, hunksFrom, List.nil_append, List.filter_cons, hone, Bool.and_false]
    rfl

end Phrasebook.Diff
