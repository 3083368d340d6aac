import Phrasebook.Diff.Matching

/-! The blocks of equal lines of two texts: they are equal on both sides, follow one another, and a text
has all its lines in common with itself. -/

namespace Phrasebook.Diff

structure Same (left right : List Text) (i j k : Nat) : Prop where
  left_le : i + k ≤ left.length
  right_le : j + k ≤ right.length
  lines : ∀ t < k, left[i + t]? = right[j + t]?

section

variable {left right : List Text} {i j k i' j' : Nat}

theorem same_zero (hi : i ≤ left.length) (hj : j ≤ right.length) : Same left right i j 0 :=
  ⟨hi, hj, fun _ ht => absurd ht (Nat.not_lt_zero _)⟩

theorem Same.append {k' : Nat} (h : Same left right i j k) (h' : Same left right (i + k) (j + k) k') :
    Same left right i j (k + k') := by
  refine ⟨by have := h'.left_le; omega, by have := h'.right_le; omega, fun t ht => ?_⟩
  by_cases hlt : t < k
  · exact h.lines t hlt
  · have hline := h'.lines (t - k) (by omega)
    rwa [Nat.add_assoc, Nat.add_assoc, Nat.add_sub_cancel' (Nat.le_of_not_lt hlt)] at hline

theorem Same.part (h : Same left right i j k) {a m : Nat} (hle : a + m ≤ k) :
    Same left right (i + a) (j + a) m := by
  have hi := h.left_le
  have hj := h.right_le
  refine ⟨by omega, by omega, fun t ht => ?_⟩
  rw [Nat.add_assoc, Nat.add_assoc]
  exact h.lines (a + t) (by omega)

theorem same_one (hi : i < left.length) (hj : j < right.length)
    (heq : left.toArray.getD i [] = right.toArray.getD j []) : Same left right i j 1 := by
  refine ⟨hi, hj, fun t ht => ?_⟩
  obtain rfl : t = 0 := by omega
  simpa [hi, hj] using heq

structure Window.Fits (w : Window) (left right : List Text) : Prop where
  left_le : w.leftStart ≤ w.leftStop
  left_stop : w.leftStop ≤ left.length
  right_le : w.rightStart ≤ w.rightStop
  right_stop : w.rightStop ≤ right.length

structure Block.IsIn (b : Block) (w : Window) (left right : List Text) : Prop where
  same : Same left right b.left b.right b.size
  left_start : w.leftStart ≤ b.left
  left_stop : b.left + b.size ≤ w.leftStop
  right_start : w.rightStart ≤ b.right
  right_stop : b.right + b.size ≤ w.rightStop

variable {w : Window} {b : Block}

theorem equalBefore_spec (hi : i ≤ left.length) (hj : j ≤ right.length) (fuel : Nat) :
    equalBefore (Sides.of left right) w fuel i j ≤ i - w.leftStart ∧
      equalBefore (Sides.of left right) w fuel i j ≤ j - w.rightStart ∧
      Same left right (i - equalBefore (Sides.of left right) w fuel i j)
        (j - equalBefore (Sides.of left right) w fuel i j)
        (equalBefore (Sides.of left right) w fuel i j) := by
  induction fuel generalizing i j with
  | zero => exact ⟨Nat.zero_le _, Nat.zero_le _, same_zero hi hj⟩
  | succ fuel ih =>
    rw [equalBefore]
    split
    next hcond =>
      simp only [Bool.and_eq_true, decide_eq_true_eq, beq_iff_eq] at hcond
      obtain ⟨⟨hileft, hjright⟩, heq⟩ := hcond
      obtain ⟨hle, hle', hsame⟩ := ih (i := i - 1) (j := j - 1) (by omega) (by omega)
      generalize equalBefore (Sides.of left right) w fuel (i - 1) (j - 1) = m at hle hle' hsame
      have hone : Same left right (i - 1) (j - 1) 1 := same_one (by omega) (by omega) heq
      refine ⟨by omega, by omega, ?_⟩
      rw [show i - (m + 1) = i - 1 - m by omega, show j - (m + 1) = j - 1 - m by omega]
      refine hsame.append ?_
      rwa [show i - 1 - m + m = i - 1 by omega, show j - 1 - m + m = j - 1 by omega]
    next => exact ⟨Nat.zero_le _, Nat.zero_le _, same_zero hi hj⟩

theorem equalAfter_spec (hw : w.Fits left right) (hi : i ≤ w.leftStop) (hj : j ≤ w.rightStop) (fuel : Nat) :
    i + equalAfter (Sides.of left right) w fuel i j ≤ w.leftStop ∧
      j + equalAfter (Sides.of left right) w fuel i j ≤ w.rightStop ∧
      Same left right i j (equalAfter (Sides.of left right) w fuel i j) := by
  have hleft := hw.left_stop
  have hright := hw.right_stop
  induction fuel generalizing i j with
  | zero => exact ⟨hi, hj, same_zero (by omega) (by omega)⟩
  | succ fuel ih =>
    rw [equalAfter]
    split
    next hcond =>
      simp only [Bool.and_eq_true, decide_eq_true_eq, beq_iff_eq] at hcond
      obtain ⟨⟨hileft, hjright⟩, heq⟩ := hcond
      obtain ⟨hle, hle', hsame⟩ := ih (i := i + 1) (j := j + 1) (by omega) (by omega)
      refine ⟨by omega, by omega, ?_⟩
      rw [Nat.add_comm]
      exact (same_one (by omega) (by omega) heq).append hsame
    next => exact ⟨hi, hj, same_zero (by omega) (by omega)⟩

theorem of_mem_placesOf {line : Text} (h : j ∈ placesOf right line) : right[j]? = some line := by
  unfold placesOf at h
  dsimp only at h
  split at h
  next => cases h
  next =>
    obtain ⟨⟨l, j⟩, hmem, rfl⟩ := List.mem_map.1 h
    obtain ⟨hmem, heq⟩ := List.mem_filter.1 hmem
    rw [List.mk_mem_zipIdx_iff_getElem?] at hmem
    rw [hmem]
    exact congrArg some (eq_of_beq heq)

theorem places_getD (hi : i < left.length) :
    (Sides.of left right).places.getD i [] = placesOf right left[i] := by
  simp [Sides.of, hi]

theorem same_of_mem_places (h : j ∈ (Sides.of left right).places.getD i []) : Same left right i j 1 := by
  by_cases hi : i < left.length
  · rw [places_getD hi] at h
    have hline := of_mem_placesOf h
    obtain ⟨hj, -⟩ := List.getElem?_eq_some_iff.1 hline
    refine ⟨hi, hj, fun t ht => ?_⟩
    obtain rfl : t = 0 := by omega
    rw [Nat.add_zero, Nat.add_zero, hline, List.getElem?_eq_getElem hi]
  · simp [Sides.of, hi] at h

def lengthAt (lengths : List (Nat × Nat)) (j : Nat) : Nat :=
  ((lengths.find? fun e => e.1 + 1 == j).map (·.2)).getD 0

theorem mem_lengthsAt {s : Sides} {earlier : List (Nat × Nat)} {e : Nat × Nat} :
    e ∈ lengthsAt s w i earlier ↔ e.1 ∈ s.places.getD i [] ∧ w.rightStart ≤ e.1 ∧ e.1 < w.rightStop ∧
      e.2 = lengthAt earlier e.1 + 1 := by
  constructor
  · intro h
    obtain ⟨j, hj, rfl⟩ := List.mem_map.1 h
    obtain ⟨hj, hin⟩ := List.mem_filter.1 hj
    simp only [Bool.and_eq_true, decide_eq_true_eq] at hin
    exact ⟨hj, hin.1, hin.2, rfl⟩
  · rintro ⟨hj, hstart, hstop, hlength⟩
    refine List.mem_map.2 ⟨e.1, List.mem_filter.2 ⟨hj, by simp [hstart, hstop]⟩, ?_⟩
    exact Prod.ext rfl hlength.symm

theorem lengthAt_cases (lengths : List (Nat × Nat)) (j : Nat) :
    (lengthAt lengths j = 0 ∧ ∀ e ∈ lengths, e.1 + 1 ≠ j) ∨
      ∃ e ∈ lengths, e.1 + 1 = j ∧ e.2 = lengthAt lengths j := by
  unfold lengthAt
  cases hfind : lengths.find? fun e => e.1 + 1 == j with
  | none => exact .inl ⟨rfl, fun e he => by simpa using List.find?_eq_none.1 hfind e he⟩
  | some e => exact .inr ⟨e, List.mem_of_find?_eq_some hfind, by simpa using List.find?_some hfind, rfl⟩

def better (i : Nat) (b : Block) (e : Nat × Nat) : Block :=
  if b.size < e.2 then ⟨i + 1 - e.2, e.1 + 1 - e.2, e.2⟩ else b

theorem bestFrom_succ {s : Sides} {fuel : Nat} {earlier : List (Nat × Nat)} (hi : i < w.leftStop) :
    bestFrom s w (fuel + 1) i earlier b =
      bestFrom s w fuel (i + 1) (lengthsAt s w i earlier) ((lengthsAt s w i earlier).foldl (better i) b) := by
  rw [bestFrom, if_pos hi]
  rfl

theorem foldl_better (P : Block → Prop) {lengths : List (Nat × Nat)} (hb : P b)
    (h : ∀ e ∈ lengths, P ⟨i + 1 - e.2, e.1 + 1 - e.2, e.2⟩) : P (lengths.foldl (better i) b) := by
  induction lengths generalizing b with
  | nil => exact hb
  | cons e lengths ih =>
    refine ih ?_ fun e he => h e (List.mem_cons_of_mem _ he)
    unfold better
    split
    · exact h e List.mem_cons_self
    · exact hb

/-- The blocks that end at the line before `i`, by their last places in the second sequence. -/
def EndsAt (left right : List Text) (w : Window) (i : Nat) (lengths : List (Nat × Nat)) : Prop :=
  ∀ e ∈ lengths, e.2 ≤ i - w.leftStart ∧ e.2 ≤ e.1 + 1 - w.rightStart ∧
    (w.rightStart ≤ e.1 ∧ e.1 < w.rightStop) ∧
    Same left right (i - e.2) (e.1 + 1 - e.2) e.2

theorem endsAt_lengthsAt {earlier : List (Nat × Nat)} (hi : w.leftStart ≤ i)
    (h : EndsAt left right w i earlier) :
    EndsAt left right w (i + 1) (lengthsAt (Sides.of left right) w i earlier) := by
  intro e he
  obtain ⟨hplace, hstart, hstop, hlength⟩ := mem_lengthsAt.1 he
  have hone := same_of_mem_places hplace
  rcases lengthAt_cases earlier e.1 with ⟨hzero, -⟩ | ⟨e', he', hbefore, hsame⟩
  · rw [hzero] at hlength
    rw [hlength]
    exact ⟨by omega, by omega, ⟨hstart, hstop⟩, hone⟩
  · obtain ⟨hle, hle', -, hrun⟩ := h e' he'
    rw [← hsame] at hlength
    rw [hlength]
    refine ⟨by omega, by omega, ⟨hstart, hstop⟩, ?_⟩
    rw [show i + 1 - (e'.2 + 1) = i - e'.2 by omega, show e.1 + 1 - (e'.2 + 1) = e'.1 + 1 - e'.2 by omega]
    refine hrun.append ?_
    rwa [show i - e'.2 + e'.2 = i by omega, show e'.1 + 1 - e'.2 + e'.2 = e.1 by omega]

theorem bestFrom_isIn (fuel : Nat) {earlier : List (Nat × Nat)} (hi : w.leftStart ≤ i)
    (h : EndsAt left right w i earlier) (hb : b.IsIn w left right) :
    (bestFrom (Sides.of left right) w fuel i earlier b).IsIn w left right := by
  induction fuel generalizing i earlier b with
  | zero => exact hb
  | succ fuel ih =>
    by_cases hstop : i < w.leftStop
    · rw [bestFrom_succ hstop]
      have hends := endsAt_lengthsAt hi h
      refine ih (by omega) hends (foldl_better (Block.IsIn · w left right) hb fun e he => ?_)
      obtain ⟨hle, hle', hbound, hsame⟩ := hends e he
      constructor <;> dsimp only <;> first | exact hsame | omega
    · rw [bestFrom, if_neg hstop]
      exact hb

theorem longest_isIn (hw : w.Fits left right) : (longest (Sides.of left right) w).IsIn w left right := by
  have hfirst : Block.IsIn ⟨w.leftStart, w.rightStart, 0⟩ w left right :=
    ⟨same_zero (Nat.le_trans hw.left_le hw.left_stop) (Nat.le_trans hw.right_le hw.right_stop),
      Nat.le_refl _, hw.left_le, Nat.le_refl _, hw.right_le⟩
  have hnone : EndsAt left right w w.leftStart [] := fun e he => by cases he
  have hbest := bestFrom_isIn (w.leftStop - w.leftStart) (Nat.le_refl w.leftStart) hnone hfirst
  unfold longest
  dsimp only
  generalize bestFrom (Sides.of left right) w (w.leftStop - w.leftStart) w.leftStart []
    ⟨w.leftStart, w.rightStart, 0⟩ = best at hbest
  obtain ⟨hsame, hls, hlt, hrs, hrt⟩ := hbest
  have hleft := hsame.left_le
  have hright := hsame.right_le
  obtain ⟨hback, hback', hbefore⟩ :=
    equalBefore_spec (w := w) (Nat.le_of_add_right_le hleft) (Nat.le_of_add_right_le hright) best.left
  generalize equalBefore (Sides.of left right) w best.left best.left best.right = back at hback hback' hbefore
  obtain ⟨hahead, hahead', hafter⟩ := equalAfter_spec hw (i := best.left - back + (best.size + back))
    (j := best.right - back + (best.size + back)) (by omega) (by omega) w.leftStop
  generalize equalAfter (Sides.of left right) w w.leftStop _ _ = ahead at hahead hahead' hafter
  constructor <;> dsimp only <;> try omega
  refine Same.append ?_ hafter
  rw [Nat.add_comm best.size]
  refine hbefore.append ?_
  rwa [show best.left - back + back = best.left by omega, show best.right - back + back = best.right by omega]

def Steps (left right : List Text) : Nat → Nat → List Block → Nat → Nat → Prop
  | i, j, [], i', j' => i ≤ i' ∧ j ≤ j'
  | i, j, b :: rest, i', j' => (i ≤ b.left ∧ j ≤ b.right ∧ Same left right b.left b.right b.size) ∧
      Steps left right (b.left + b.size) (b.right + b.size) rest i' j'

variable {bs bs' : List Block} {m n : Nat}

theorem Steps.mono (hi : i ≤ m) (hj : j ≤ n) (h : Steps left right m n bs i' j') :
    Steps left right i j bs i' j' := by
  cases bs with
  | nil => exact ⟨Nat.le_trans hi h.1, Nat.le_trans hj h.2⟩
  | cons b rest =>
    obtain ⟨⟨hleft, hright, hsame⟩, hrest⟩ := h
    exact ⟨⟨Nat.le_trans hi hleft, Nat.le_trans hj hright, hsame⟩, hrest⟩

theorem Steps.append (h : Steps left right i j bs m n) (h' : Steps left right m n bs' i' j') :
    Steps left right i j (bs ++ bs') i' j' := by
  induction bs generalizing i j with
  | nil => exact h'.mono h.1 h.2
  | cons b rest ih => exact ⟨h.1, ih h.2⟩

theorem steps_blocksIn (hw : w.Fits left right) (fuel : Nat) :
    Steps left right w.leftStart w.rightStart (blocksIn (Sides.of left right) fuel w) w.leftStop
      w.rightStop := by
  induction fuel generalizing w with
  | zero => exact ⟨hw.left_le, hw.right_le⟩
  | succ fuel ih =>
    obtain ⟨hsame, hls, hlt, hrs, hrt⟩ := longest_isIn hw
    have hleft := hw.left_stop
    have hright := hw.right_stop
    rw [blocksIn]
    generalize longest (Sides.of left right) w = b at hsame hls hlt hrs hrt
    have hfirst : Window.Fits ⟨w.leftStart, b.left, w.rightStart, b.right⟩ left right :=
      ⟨hls, by show b.left ≤ _; omega, hrs, by show b.right ≤ _; omega⟩
    have hlast : Window.Fits ⟨b.left + b.size, w.leftStop, b.right + b.size, w.rightStop⟩ left right :=
      ⟨hlt, hleft, hrt, hright⟩
    dsimp only
    split
    next => exact ⟨hw.left_le, hw.right_le⟩
    next =>
    refine Steps.append (m := b.left) (n := b.right) ?before ⟨⟨Nat.le_refl _, Nat.le_refl _, hsame⟩, ?after⟩
    case before =>
      split
      next => exact ih hfirst
      next => exact ⟨hls, hrs⟩
    case after =>
      split
      next => exact ih hlast
      next => exact ⟨hlt, hrt⟩

theorem Steps.joinTouching (h : Steps left right i j bs i' j') :
    Steps left right i j (joinTouching bs) i' j' := by
  induction bs generalizing i j with
  | nil => exact h
  | cons b rest ih =>
    obtain ⟨⟨hleft, hright, hsame⟩, hrest⟩ := h
    have hjoined := ih hrest
    rw [Diff.joinTouching]
    cases hjoin : Diff.joinTouching rest with
    | nil =>
      rw [hjoin] at hjoined
      exact ⟨⟨hleft, hright, hsame⟩, hjoined⟩
    | cons next more =>
      rw [hjoin] at hjoined
      dsimp only
      split
      next htouch =>
        obtain ⟨⟨-, -, hnext⟩, hmore⟩ := hjoined
        refine ⟨⟨hleft, hright, hsame.append ?_⟩, ?_⟩
        · rwa [htouch.1, htouch.2]
        · dsimp only
          rwa [← Nat.add_assoc, ← Nat.add_assoc, htouch.1, htouch.2]
      next => exact ⟨⟨hleft, hright, hsame⟩, hjoined⟩

theorem steps_blocks (left right : List Text) :
    Steps left right 0 0 (blocks left right) left.length right.length := by
  have hw : Window.Fits ⟨0, left.length, 0, right.length⟩ left right :=
    ⟨Nat.zero_le _, Nat.le_refl _, Nat.zero_le _, Nat.le_refl _⟩
  exact (steps_blocksIn hw _).joinTouching

end

section

variable {lines : List Text} {i j : Nat}

def ownRun (lines : List Text) : Nat → Nat
  | 0 => 0
  | i + 1 => if (Sides.of lines lines).places.getD i [] = [] then 0 else ownRun lines i + 1

theorem places_eq_of_mem (h : j ∈ (Sides.of lines lines).places.getD i []) :
    (Sides.of lines lines).places.getD j [] = (Sides.of lines lines).places.getD i [] := by
  obtain ⟨hi, hj, hline⟩ := same_of_mem_places h
  have hsame := hline 0 Nat.one_pos
  rw [Nat.add_zero, Nat.add_zero, List.getElem?_eq_getElem hi, List.getElem?_eq_getElem hj] at hsame
  rw [places_getD hi, places_getD hj, Option.some.inj hsame]

theorem mem_places_self (hi : i < lines.length) (h : (Sides.of lines lines).places.getD i [] ≠ []) :
    i ∈ (Sides.of lines lines).places.getD i [] := by
  rw [places_getD hi] at h ⊢
  unfold placesOf at h ⊢
  dsimp only at h ⊢
  split
  next hcount =>
    rw [if_pos hcount] at h
    exact (h rfl).elim
  next =>
    refine List.mem_map.2 ⟨(lines[i], i), List.mem_filter.2 ⟨?_, by simp⟩, rfl⟩
    rw [List.mk_mem_zipIdx_iff_getElem?]
    exact List.getElem?_eq_getElem hi

theorem places_pairwise (i : Nat) : ((Sides.of lines lines).places.getD i []).Pairwise (· < ·) := by
  by_cases hi : i < lines.length
  · rw [places_getD hi]
    unfold placesOf
    dsimp only
    split
    next => exact List.Pairwise.nil
    next =>
      have hall : (lines.zipIdx.map (·.2)).Pairwise (· < ·) := by
        rw [List.zipIdx_map_snd]
        exact List.pairwise_lt_range'
      exact hall.sublist (List.filter_sublist.map _)
  · have hnone : (Sides.of lines lines).places.getD i [] = [] := by simp [Sides.of, hi]
    rw [hnone]
    exact List.Pairwise.nil

/-- The blocks of a text with itself that end at one line are no longer than the block on the diagonal, nor
than the diagonal block where they end in the second sequence. -/
structure OwnLengths (lines : List Text) (i : Nat) (lengths : List (Nat × Nat)) : Prop where
  le : ∀ e ∈ lengths, e.2 ≤ ownRun lines i ∧ e.2 ≤ ownRun lines (e.1 + 1)
  diagonal : lengthAt lengths i = ownRun lines i

theorem ownLengths_nil (lines : List Text) : OwnLengths lines 0 [] :=
  ⟨fun _ he => absurd he List.not_mem_nil, rfl⟩

variable {w : Window} {lengths : List (Nat × Nat)} {b : Block}

def whole (lines : List Text) : Window := ⟨0, lines.length, 0, lines.length⟩

theorem ownLengths_lengthsAt (hi : i < lines.length) (h : OwnLengths lines i lengths) :
    OwnLengths lines (i + 1) (lengthsAt (Sides.of lines lines) (whole lines) i lengths) := by
  constructor
  · intro e he
    obtain ⟨hplace, -, -, hsize⟩ := mem_lengthsAt.1 he
    have hplaces := List.ne_nil_of_mem hplace
    rw [ownRun, ownRun, if_neg hplaces, places_eq_of_mem hplace, if_neg hplaces, hsize]
    rcases lengthAt_cases lengths e.1 with ⟨hzero, -⟩ | ⟨e', he', hbefore, hsame⟩
    · omega
    · obtain ⟨hle, hle'⟩ := h.le e' he'
      rw [hbefore] at hle'
      omega
  · rw [ownRun]
    rcases lengthAt_cases (lengthsAt (Sides.of lines lines) (whole lines) i lengths) (i + 1)
      with ⟨hzero, hnone⟩ | ⟨e, he, hlast, hlength⟩
    · rw [hzero]
      split
      next => rfl
      next hplaces =>
        have hown : (i, lengthAt lengths i + 1) ∈
            lengthsAt (Sides.of lines lines) (whole lines) i lengths :=
          mem_lengthsAt.2 ⟨mem_places_self hi hplaces, Nat.zero_le _, hi, rfl⟩
        exact (hnone _ hown rfl).elim
    · obtain ⟨hplace, -, -, hsize⟩ := mem_lengthsAt.1 he
      obtain rfl : e.1 = i := by omega
      rw [if_neg (List.ne_nil_of_mem hplace), ← hlength, hsize, h.diagonal]

/-- A block on the diagonal, no shorter than those on the diagonal that end before a line. -/
structure IsOwn (lines : List Text) (i : Nat) (b : Block) : Prop where
  diagonal : b.left = b.right
  longest : ∀ m ≤ i, ownRun lines m ≤ b.size

theorem foldl_better_of_le {lengths : List (Nat × Nat)} (h : ∀ e ∈ lengths, e.2 ≤ b.size) :
    lengths.foldl (better i) b = b := by
  induction lengths with
  | nil => rfl
  | cons e lengths ih =>
    have hle := h e List.mem_cons_self
    rw [List.foldl_cons, better, if_neg (by omega)]
    exact ih fun e he => h e (List.mem_cons_of_mem _ he)

theorem isOwn_better (hplaces : (Sides.of lines lines).places.getD i [] ≠ []) (hb : IsOwn lines i b) :
    IsOwn lines (i + 1) (better i b (i, ownRun lines i + 1)) := by
  have hrun : ownRun lines (i + 1) = ownRun lines i + 1 := by
    rw [ownRun, if_neg hplaces]
  unfold better
  split
  next hlt =>
    refine ⟨rfl, fun m hm => ?_⟩
    rcases Nat.lt_or_eq_of_le hm with hm | rfl
    · exact Nat.le_trans (hb.longest m (by omega)) (Nat.le_of_lt hlt)
    · exact Nat.le_of_eq hrun
  next hle =>
    refine ⟨hb.diagonal, fun m hm => ?_⟩
    rcases Nat.lt_or_eq_of_le hm with hm | rfl
    · exact hb.longest m (by omega)
    · dsimp only at hle
      omega

theorem isOwn_skip (hplaces : (Sides.of lines lines).places.getD i [] = []) (hb : IsOwn lines i b) :
    IsOwn lines (i + 1) b := by
  refine ⟨hb.diagonal, fun m hm => ?_⟩
  rcases Nat.lt_or_eq_of_le hm with hm | rfl
  · exact hb.longest m (by omega)
  · rw [ownRun, if_pos hplaces]
    exact Nat.zero_le _

/-- The blocks that end at one line are looked through from left to right. Those before the diagonal are no
longer than what was found at earlier lines, and those behind it no longer than the one on it. -/
theorem isOwn_foldl (hi : i < lines.length) (h : OwnLengths lines i lengths) (hb : IsOwn lines i b) :
    IsOwn lines (i + 1)
      ((lengthsAt (Sides.of lines lines) (whole lines) i lengths).foldl (better i) b) := by
  have hnext := ownLengths_lengthsAt hi h
  have hsorted : (lengthsAt (Sides.of lines lines) (whole lines) i lengths).Pairwise fun e e' => e.1 < e'.1 := by
    refine List.Pairwise.map _ (fun _ _ h => h) ?_
    exact (places_pairwise i).filter _
  by_cases hplaces : (Sides.of lines lines).places.getD i [] = []
  · have hnone : lengthsAt (Sides.of lines lines) (whole lines) i lengths = [] := by
      rw [lengthsAt, hplaces]
      rfl
    rw [hnone]
    exact isOwn_skip hplaces hb
  · have hown : (i, lengthAt lengths i + 1) ∈ lengthsAt (Sides.of lines lines) (whole lines) i lengths :=
      mem_lengthsAt.2 ⟨mem_places_self hi hplaces, Nat.zero_le _, hi, rfl⟩
    rw [h.diagonal] at hown
    obtain ⟨front, back, hsplit⟩ := List.append_of_mem hown
    rw [hsplit] at hsorted hnext ⊢
    obtain ⟨-, -, hfront⟩ := List.pairwise_append.1 hsorted
    have hshort : ∀ e ∈ front, e.2 ≤ b.size := by
      intro e he
      have hlt : e.1 < i := hfront e he _ List.mem_cons_self
      exact Nat.le_trans (hnext.le e (List.mem_append_left _ he)).2 (hb.longest (e.1 + 1) hlt)
    have hbetter := isOwn_better hplaces hb
    rw [List.foldl_append, foldl_better_of_le hshort, List.foldl_cons, foldl_better_of_le fun e he => ?_]
    · exact hbetter
    · have hle := (hnext.le e (List.mem_append_right _ (List.mem_cons_of_mem _ he))).1
      exact Nat.le_trans hle (hbetter.longest (i + 1) (Nat.le_refl _))

theorem bestFrom_diagonal (fuel : Nat) (h : OwnLengths lines i lengths) (hb : IsOwn lines i b) :
    (bestFrom (Sides.of lines lines) (whole lines) fuel i lengths b).left =
      (bestFrom (Sides.of lines lines) (whole lines) fuel i lengths b).right := by
  induction fuel generalizing i lengths b with
  | zero => exact hb.diagonal
  | succ fuel ih =>
    by_cases hi : i < lines.length
    · rw [bestFrom_succ hi]
      exact ih (ownLengths_lengthsAt hi h) (isOwn_foldl hi h hb)
    · have hstop : ¬ i < (whole lines).leftStop := hi
      rw [bestFrom, if_neg hstop]
      exact hb.diagonal

theorem equalBefore_self (hi : i ≤ lines.length) :
    equalBefore (Sides.of lines lines) (whole lines) i i i = i := by
  induction i with
  | zero => rfl
  | succ i ih =>
    have hcond : (decide ((whole lines).leftStart < i + 1) && decide ((whole lines).rightStart < i + 1) &&
        (Sides.of lines lines).left.getD (i + 1 - 1) [] == (Sides.of lines lines).right.getD (i + 1 - 1) []) =
          true := by
      simp [whole, Sides.of]
    rw [equalBefore, if_pos hcond]
    exact congrArg (· + 1) (ih (by omega))

theorem equalAfter_self {fuel : Nat} (hfuel : lines.length - i ≤ fuel) (hi : i ≤ lines.length) :
    equalAfter (Sides.of lines lines) (whole lines) fuel i i = lines.length - i := by
  induction fuel generalizing i with
  | zero =>
    rw [equalAfter]
    omega
  | succ fuel ih =>
    rw [equalAfter]
    by_cases hlt : i < lines.length
    · rw [if_pos (by simp [whole, Sides.of, hlt]), ih (by omega) hlt]
      omega
    · rw [if_neg (by simp [whole, hlt])]
      omega

theorem longest_self (lines : List Text) :
    longest (Sides.of lines lines) (whole lines) = ⟨0, 0, lines.length⟩ := by
  have hw : (whole lines).Fits lines lines := ⟨Nat.zero_le _, Nat.le_refl _, Nat.zero_le _, Nat.le_refl _⟩
  have hfirst : Block.IsIn ⟨0, 0, 0⟩ (whole lines) lines lines :=
    ⟨same_zero (Nat.zero_le _) (Nat.zero_le _), Nat.le_refl _, Nat.zero_le _, Nat.le_refl _, Nat.zero_le _⟩
  have hnone : EndsAt lines lines (whole lines) 0 [] := fun _ he => absurd he List.not_mem_nil
  have hbest := bestFrom_isIn lines.length (Nat.le_refl 0) hnone hfirst
  have hdiagonal := bestFrom_diagonal lines.length (ownLengths_nil lines) (b := ⟨0, 0, 0⟩)
    ⟨rfl, fun m hm => by rw [Nat.le_zero.1 hm]; exact Nat.le_refl _⟩
  have hbound : _ ≤ lines.length := hbest.left_stop
  have hstart : longest (Sides.of lines lines) (whole lines) =
      let best := bestFrom (Sides.of lines lines) (whole lines) lines.length 0 [] ⟨0, 0, 0⟩
      let back := equalBefore (Sides.of lines lines) (whole lines) best.left best.left best.right
      let start : Block := ⟨best.left - back, best.right - back, best.size + back⟩
      let ahead := equalAfter (Sides.of lines lines) (whole lines) lines.length
        (start.left + start.size) (start.right + start.size)
      { start with size := start.size + ahead } := rfl
  rw [hstart]
  generalize bestFrom (Sides.of lines lines) (whole lines) lines.length 0 [] ⟨0, 0, 0⟩ = best at hdiagonal hbound
  dsimp only
  rw [← hdiagonal, equalBefore_self (Nat.le_of_add_right_le hbound), Nat.sub_self, Nat.zero_add,
    equalAfter_self (Nat.sub_le _ _) (by omega)]
  congr 1
  omega

theorem blocks_self (lines : List Text) :
    blocks lines lines = if lines = [] then [] else [⟨0, 0, lines.length⟩] := by
  have hlongest := longest_self lines
  have hblocks : blocks lines lines =
      joinTouching (blocksIn (Sides.of lines lines) (lines.length + 1) (whole lines)) := rfl
  rw [hblocks, blocksIn, hlongest]
  dsimp only [whole]
  by_cases hnil : lines = []
  · rw [if_pos hnil, if_pos (by simp [hnil])]
    rfl
  · rw [if_neg hnil, if_neg (by simpa using hnil)]
    simp [joinTouching]

end

end Phrasebook.Diff
