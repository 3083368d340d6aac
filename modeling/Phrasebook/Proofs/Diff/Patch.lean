import Phrasebook.Proofs.Diff.Hunks
import Phrasebook.Proofs.Text.Digits

/-! Unified diffs read back. A diff is applied to the lines of a text row by row: a heading says where its
hunk is and how many lines it has on both sides, and each row below it keeps a line, takes one away or adds
one. -/

namespace Phrasebook.Diff

def after? (lead t : Text) : Option Text :=
  if Text.startsWith t lead then some (t.drop lead.length) else none

def number? (t : Text) : Option (Nat × Text) :=
  match t.takeWhile CodePoint.isDigit with
  | [] => none
  | digits => some (Text.digitNumber 10 digits, t.drop digits.length)

/-- A range of lines, told by its first line and their number, which is one if it is left out. -/
def range? (t : Text) : Option ((Nat × Nat) × Text) := do
  let (first, rest) ← number? t
  match after? "," rest with
  | none => return ((first, 1), rest)
  | some rest =>
    let (count, rest) ← number? rest
    return ((first, count), rest)

def heading? (row : Text) : Option ((Nat × Nat) × (Nat × Nat)) := do
  let (old, rest) ← range? (← after? "@@ -" row)
  let (new, rest) ← range? (← after? " +" rest)
  let _ ← after? " @@" rest
  return (old, new)

/-- The lines before a range. One without lines is told by the line before it. -/
def before (range : Nat × Nat) : Nat := if range.2 = 0 then range.1 else range.1 - 1

structure Patching where
  old : List Text
  read : Nat
  new : List Text
  /-- How many lines of the hunk are still to come, of the old text and of the new one. -/
  oldLeft : Nat
  newLeft : Nat

namespace Patching

def begin? (st : Patching) (row : Text) : Option Patching := do
  let (old, new) ← heading? row
  let gap := before old - st.read
  if st.read ≤ before old ∧ gap ≤ st.old.length ∧ st.new.length + gap = before new then
    some ⟨st.old.drop gap, before old, st.new ++ st.old.take gap, old.2, new.2⟩
  else none

def take? (st : Patching) (line : Text) : Option Patching :=
  match st.old, st.oldLeft with
  | next :: old, left + 1 =>
    if next = line then some { st with old, read := st.read + 1, oldLeft := left } else none
  | _, _ => none

def give? (st : Patching) (line : Text) : Option Patching :=
  match st.newLeft with
  | left + 1 => some { st with new := st.new ++ [line], newLeft := left }
  | 0 => none

def row? (st : Patching) (row : Text) : Option Patching :=
  if st.oldLeft = 0 ∧ st.newLeft = 0 then st.begin? row
  else match after? " " row, after? "-" row, after? "+" row with
    | some line, _, _ => st.take? line >>= fun st => st.give? line
    | _, some line, _ => st.take? line
    | _, _, some line => st.give? line
    | _, _, _ => none

end Patching

/-- The rows of a diff, without the names of its files, applied to the lines of a text. -/
def applied? (rows old : List Text) : Option (List Text) := do
  let st ← rows.foldlM Patching.row? ⟨old, 0, [], 0, 0⟩
  if st.oldLeft = 0 ∧ st.newLeft = 0 then some (st.new ++ st.old) else none

/-! The rows that are printed for two texts. -/

def markedRows (mark : Text) (lines : List Text) (start stop : Nat) : List Text :=
  ((lines.drop start).take (stop - start)).map (mark ++ ·)

def Stretch.rows (left right : List Text) (s : Stretch) : List Text :=
  if s.isEqual then markedRows " " left s.leftStart s.leftStop
  else markedRows "-" left s.leftStart s.leftStop ++ markedRows "+" right s.rightStart s.rightStop

def heading (first last : Stretch) : Text :=
  "@@ -" ++ range first.leftStart last.leftStop ++ " +" ++ range first.rightStart last.rightStop ++ " @@\n"

def hunkRows (left right : List Text) (hunk : List Stretch) : List Text :=
  match hunk.head?, hunk.getLast? with
  | some first, some last => heading first last :: hunk.flatMap (Stretch.rows left right)
  | _, _ => []

section

variable {left right : List Text} {i j k m n p q i' j' start stop : Nat} {s : Stretch}
  {sts hunk : List Stretch} {rest t : Text}

theorem flatten_rows (left right : List Text) (s : Stretch) :
    (s.rows left right).flatten = s.render left right := by
  unfold Stretch.rows Stretch.render
  split
  · rfl
  · rw [List.flatten_append]
    rfl

theorem flatten_flatMap {α : Type} (f : α → List Text) (g : α → Text) (h : ∀ a, (f a).flatten = g a)
    (xs : List α) :
    (xs.flatMap f).flatten = xs.flatMap g := by
  induction xs with
  | nil => rfl
  | cons a xs ih => rw [List.flatMap_cons, List.flatMap_cons, List.flatten_append, h, ih]

theorem flatten_hunkRows (left right : List Text) (hunk : List Stretch) :
    (hunkRows left right hunk).flatten = renderHunk left right hunk := by
  unfold hunkRows renderHunk
  cases hunk.head? with
  | none => rfl
  | some first =>
  cases hunk.getLast? with
  | none => rfl
  | some last =>
    dsimp only
    rw [List.flatten_cons, flatten_flatMap _ _ (flatten_rows left right)]
    rfl

theorem after?_append (lead t : Text) : after? lead (lead ++ t) = some t := by
  unfold after? Text.startsWith
  rw [if_pos (List.isPrefixOf_iff_prefix.2 (List.prefix_append lead t)), List.drop_left]

theorem number?_ofNat (hrest : ∀ c ∈ rest.head?, c.isDigit = false) (n : Nat) :
    number? (Text.ofNat n ++ rest) = some (n, rest) := by
  obtain ⟨hnumber, hdigits, c, more, hne, -⟩ := Text.ofNat_spec n
  have hstop : rest.takeWhile CodePoint.isDigit = [] := by
    cases rest with
    | nil => rfl
    | cons d rest => rw [List.takeWhile_cons, hrest d rfl]; rfl
  have htake : (Text.ofNat n ++ rest).takeWhile CodePoint.isDigit = Text.ofNat n := by
    rw [List.takeWhile_append_of_pos hdigits, hstop, List.append_nil]
  unfold number?
  rw [htake]
  split
  next hnil =>
    rw [hne] at hnil
    cases hnil
  next => rw [hnumber, List.drop_left]

def rangeOf (start stop : Nat) : Nat × Nat :=
  (if stop - start = 0 then start else start + 1, stop - start)

theorem before_rangeOf (start stop : Nat) : before (rangeOf start stop) = start := by
  unfold before rangeOf
  dsimp only
  split
  next h => rfl
  next h => rfl

theorem range?_range (hdigit : ∀ c ∈ rest.head?, c.isDigit = false) (hcomma : after? "," rest = none)
    (start stop : Nat) : range? (range start stop ++ rest) = some (rangeOf start stop, rest) := by
  unfold range? range rangeOf
  dsimp only
  split
  next hone =>
    rw [number?_ofNat hdigit]
    simp only [Option.bind_eq_bind, Option.bind_some, hcomma]
    rw [hone]
    rfl
  next hone =>
    have hstop : ∀ c ∈ (("," : Text) ++ (Text.ofNat (stop - start) ++ rest)).head?, c.isDigit = false :=
      fun c hc => by cases hc; rfl
    rw [List.append_assoc, List.append_assoc, number?_ofNat hstop, Option.bind_eq_bind, Option.bind_some]
    dsimp only
    rw [after?_append]
    dsimp only
    rw [number?_ofNat hdigit]
    rfl

theorem heading?_heading (first last : Stretch) : heading? (heading first last) =
    some (rangeOf first.leftStart last.leftStop, rangeOf first.rightStart last.rightStop) := by
  have hplus (t : Text) : ∀ c ∈ ((" +" : Text) ++ t).head?, c.isDigit = false := fun c hc => by cases hc; rfl
  unfold heading? heading
  simp only [List.append_assoc]
  rw [after?_append]
  simp only [Option.bind_eq_bind, Option.bind_some]
  rw [range?_range (hplus _) rfl]
  simp only [Option.bind_some]
  rw [after?_append]
  simp only [Option.bind_some]
  rw [range?_range (by decide) (by decide)]
  rfl

/-- A text while a diff is applied to it, at two places, with lines of the hunk still to come. -/
def reached (left right : List Text) (i j p q : Nat) : Patching :=
  ⟨left.drop i, i, right.take j, p, q⟩

theorem take?_reached {line : Text} (h : left[i]? = some line) :
    (reached left right i j (p + 1) q).take? line = some (reached left right (i + 1) j p q) := by
  obtain ⟨hi, rfl⟩ := List.getElem?_eq_some_iff.1 h
  unfold reached Patching.take?
  rw [List.drop_eq_getElem_cons hi]
  dsimp only
  rw [if_pos rfl]

theorem give?_reached {line : Text} (h : right[j]? = some line) :
    (reached left right i j p (q + 1)).give? line = some (reached left right i (j + 1) p q) := by
  unfold reached Patching.give?
  dsimp only
  rw [List.take_add_one, h]
  rfl

theorem row?_equal {line : Text} (hleft : left[i]? = some line) (hright : right[j]? = some line) :
    (reached left right i j (p + 1) (q + 1)).row? (" " ++ line) = some (reached left right (i + 1) (j + 1) p q) := by
  unfold Patching.row?
  rw [if_neg (by simp [reached]), after?_append]
  dsimp only
  rw [take?_reached hleft, Option.bind_eq_bind, Option.bind_some, give?_reached hright]

theorem row?_taken {line : Text} (hleft : left[i]? = some line) :
    (reached left right i j (p + 1) q).row? ("-" ++ line) = some (reached left right (i + 1) j p q) := by
  have hequal : after? " " ("-" ++ line) = none := rfl
  unfold Patching.row?
  rw [if_neg (by simp [reached]), hequal, after?_append]
  exact take?_reached hleft

theorem row?_given {line : Text} (hright : right[j]? = some line) :
    (reached left right i j p (q + 1)).row? ("+" ++ line) = some (reached left right i (j + 1) p q) := by
  have hequal : after? " " ("+" ++ line) = none := rfl
  have htaken : after? "-" ("+" ++ line) = none := rfl
  unfold Patching.row?
  rw [if_neg (by simp [reached]), hequal, htaken, after?_append]
  exact give?_reached hright

theorem take_drop_succ {lines : List Text} (hi : i < lines.length) (k : Nat) :
    (lines.drop i).take (k + 1) = lines[i] :: (lines.drop (i + 1)).take k := by
  rw [List.drop_eq_getElem_cons hi, List.take_succ_cons]

theorem foldlM_equal (h : Same left right i j k) :
    (((left.drop i).take k).map ((" " : Text) ++ ·)).foldlM Patching.row?
      (reached left right i j (p + k) (q + k)) = some (reached left right (i + k) (j + k) p q) := by
  induction k generalizing i j with
  | zero => rfl
  | succ k ih =>
    have hi := h.left_le
    have hline := h.lines 0 (Nat.succ_pos k)
    rw [Nat.add_zero, Nat.add_zero, List.getElem?_eq_getElem (by omega)] at hline
    have hrest : Same left right (i + 1) (j + 1) k := h.part (by omega)
    rw [take_drop_succ (by omega), List.map_cons, List.foldlM_cons, ← Nat.add_assoc, ← Nat.add_assoc,
      row?_equal (List.getElem?_eq_getElem (by omega)) hline.symm, Option.bind_eq_bind, Option.bind_some, ih hrest]
    congr 2 <;> omega

theorem foldlM_taken (hi : i + k ≤ left.length) :
    (((left.drop i).take k).map (("-" : Text) ++ ·)).foldlM Patching.row?
      (reached left right i j (p + k) q) = some (reached left right (i + k) j p q) := by
  induction k generalizing i with
  | zero => rfl
  | succ k ih =>
    rw [take_drop_succ (by omega), List.map_cons, List.foldlM_cons, ← Nat.add_assoc,
      row?_taken (List.getElem?_eq_getElem (by omega)), Option.bind_eq_bind, Option.bind_some, ih (by omega)]
    congr 2
    omega

theorem foldlM_given (hj : j + k ≤ right.length) :
    (((right.drop j).take k).map (("+" : Text) ++ ·)).foldlM Patching.row?
      (reached left right i j p (q + k)) = some (reached left right i (j + k) p q) := by
  induction k generalizing j with
  | zero => rfl
  | succ k ih =>
    rw [take_drop_succ (by omega), List.map_cons, List.foldlM_cons, ← Nat.add_assoc,
      row?_given (List.getElem?_eq_getElem (by omega)), Option.bind_eq_bind, Option.bind_some, ih (by omega)]
    congr 2
    omega

theorem foldlM_rows (h : s.Lies left right) :
    (s.rows left right).foldlM Patching.row? (reached left right s.leftStart s.rightStart
      (p + (s.leftStop - s.leftStart)) (q + (s.rightStop - s.rightStart))) =
      some (reached left right s.leftStop s.rightStop p q) := by
  have hl := h.left_le
  have hr := h.right_le
  have hlt := h.left_stop
  have hrt := h.right_stop
  unfold Stretch.rows markedRows
  split
  next hequal =>
    obtain ⟨hsize, hsame⟩ := h.same hequal
    rw [← hsize, foldlM_equal hsame]
    congr 2 <;> omega
  next =>
    rw [List.foldlM_append, foldlM_taken (by omega), Option.bind_eq_bind, Option.bind_some, foldlM_given (by omega)]
    congr 2 <;> omega

theorem Runs.ordered (h : Runs left right i j sts m n) : i ≤ m ∧ j ≤ n := by
  induction sts generalizing i j with
  | nil =>
    obtain ⟨rfl, rfl⟩ := h
    exact ⟨Nat.le_refl _, Nat.le_refl _⟩
  | cons s rest ih =>
    obtain ⟨⟨rfl, rfl, hs⟩, hrest⟩ := h
    obtain ⟨hleft, hright⟩ := ih hrest
    exact ⟨Nat.le_trans hs.left_le hleft, Nat.le_trans hs.right_le hright⟩

theorem foldlM_runs (h : Runs left right i j sts m n) :
    (sts.flatMap (Stretch.rows left right)).foldlM Patching.row?
      (reached left right i j (m - i) (n - j)) = some (reached left right m n 0 0) := by
  induction sts generalizing i j with
  | nil =>
    obtain ⟨rfl, rfl⟩ := h
    rw [Nat.sub_self, Nat.sub_self]
    rfl
  | cons s rest ih =>
    obtain ⟨⟨rfl, rfl, hs⟩, hrest⟩ := h
    obtain ⟨hleft, hright⟩ := hrest.ordered
    have hl := hs.left_le
    have hr := hs.right_le
    rw [List.flatMap_cons, List.foldlM_append,
      show m - s.leftStart = m - s.leftStop + (s.leftStop - s.leftStart) by omega,
      show n - s.rightStart = n - s.rightStop + (s.rightStop - s.rightStart) by omega,
      foldlM_rows hs, Option.bind_eq_bind, Option.bind_some, ih hrest]

theorem Same.take_eq (h : Same left right i j k) : (left.drop i).take k = (right.drop j).take k := by
  refine List.ext_getElem? fun t => ?_
  rw [List.getElem?_take, List.getElem?_take]
  split
  next ht => rw [List.getElem?_drop, List.getElem?_drop, h.lines t ht]
  next => rfl

theorem Runs.ends (h : Runs left right i j (s :: sts) m n) :
    ∃ last, (s :: sts).getLast? = some last ∧ last.leftStop = m ∧ last.rightStop = n := by
  induction sts generalizing i j s with
  | nil =>
    obtain ⟨-, hleft, hright⟩ := h
    exact ⟨s, rfl, hleft, hright⟩
  | cons s' sts ih =>
    obtain ⟨last, hlast, hends⟩ := ih h.2
    exact ⟨last, by rw [List.getLast?_cons_cons, hlast], hends⟩

theorem foldlM_hunkRows (hgap : Same left right i j k) (h : Runs left right (i + k) (j + k) hunk m n)
    (hne : hunk ≠ []) : (hunkRows left right hunk).foldlM Patching.row? (reached left right i j 0 0) =
      some (reached left right m n 0 0) := by
  obtain ⟨first, rest, rfl⟩ := List.exists_cons_of_ne_nil hne
  obtain ⟨last, hlast, rfl, rfl⟩ := h.ends
  obtain ⟨hleft, hright, -⟩ := h.1
  have hi := hgap.left_le
  have hj := hgap.right_le
  have hbegin : (reached left right i j 0 0).row? (heading first last) = some (reached left right (i + k) (j + k)
      (last.leftStop - (i + k)) (last.rightStop - (j + k))) := by
    have hread : i + k - (reached left right i j 0 0).read = k := Nat.add_sub_cancel_left i k
    have hold : k ≤ (left.drop i).length := by
      rw [List.length_drop]
      omega
    have hnew : (right.take j).length + k = j + k := by
      rw [List.length_take, Nat.min_eq_left (by omega)]
    unfold Patching.row? Patching.begin?
    rw [if_pos ⟨rfl, rfl⟩, heading?_heading, Option.bind_eq_bind, Option.bind_some]
    dsimp only
    rw [before_rangeOf, before_rangeOf, hleft, hright, hread]
    refine (if_pos ⟨Nat.le_add_right i k, hold, hnew⟩).trans ?_
    unfold reached rangeOf
    rw [List.drop_drop, hgap.take_eq, ← List.take_add]
  unfold hunkRows
  rw [List.head?_cons, hlast]
  dsimp only
  rw [List.foldlM_cons, hbegin, Option.bind_eq_bind, Option.bind_some, foldlM_runs h]

theorem foldlM_covers {hs : List (List Stretch)} (h : Covers left right i j hs) (hne : ∀ hunk ∈ hs, hunk ≠ []) :
    ∃ m n, (hs.flatMap (hunkRows left right)).foldlM Patching.row? (reached left right i j 0 0) =
      some (reached left right m n 0 0) ∧ EndsSame left right m n := by
  induction hs generalizing i j with
  | nil => exact ⟨i, j, rfl, h⟩
  | cons hunk rest ih =>
    obtain ⟨k, m, n, hgap, hrun, hrest⟩ := h
    obtain ⟨m', n', hfold, hend⟩ := ih hrest fun hunk h => hne hunk (List.mem_cons_of_mem _ h)
    refine ⟨m', n', ?_, hend⟩
    rw [List.flatMap_cons, List.foldlM_append, foldlM_hunkRows hgap hrun (hne hunk List.mem_cons_self),
      Option.bind_eq_bind, Option.bind_some, hfold]

theorem applied?_hunks (left right : List Text) :
    applied? ((hunks left right).flatMap (hunkRows left right)) left = some right := by
  obtain ⟨m, n, hfold, k, hsame, hleft, hright⟩ :=
    foldlM_covers (covers_hunks left right) fun hunk h => ne_nil_of_mem_hunks h
  have hstart : (⟨left, 0, [], 0, 0⟩ : Patching) = reached left right 0 0 0 0 := rfl
  unfold applied?
  rw [hstart, hfold, Option.bind_eq_bind, Option.bind_some, if_pos ⟨rfl, rfl⟩]
  have hrest : left.drop m = right.drop n := by
    have hslice := hsame.take_eq
    rwa [List.take_of_length_le (by rw [List.length_drop]; omega),
      List.take_of_length_le (by rw [List.length_drop]; omega)] at hslice
  show some (right.take n ++ left.drop m) = some right
  rw [hrest, List.take_append_drop]

end

section

variable {st st' : Patching} {row more : Text} {pre post : List Text}

theorem new_of_take? {line : Text} (h : st.take? line = some st') : st'.new = st.new := by
  unfold Patching.take? at h
  split at h
  next =>
    split at h
    next => cases h; rfl
    next => cases h
  next => cases h

theorem new_of_give? {line : Text} (h : st.give? line = some st') : st'.new = st.new ++ [line] := by
  unfold Patching.give? at h
  split at h
  next => cases h; rfl
  next => cases h

theorem new_prefix_of_row? (h : st.row? row = some st') : st.new <+: st'.new := by
  unfold Patching.row? at h
  split at h
  next =>
    unfold Patching.begin? at h
    obtain ⟨⟨old, new⟩, -, h⟩ := Option.bind_eq_some_iff.1 h
    dsimp only at h
    split at h
    next => cases h; exact List.prefix_append _ _
    next => cases h
  next =>
  split at h
  next =>
    obtain ⟨st₁, hfirst, hsecond⟩ := Option.bind_eq_some_iff.1 h
    rw [← new_of_take? hfirst, new_of_give? hsecond]
    exact List.prefix_append _ _
  next => exact ⟨[], by rw [List.append_nil, new_of_take? h]⟩
  next =>
    rw [new_of_give? h]
    exact List.prefix_append _ _
  next => cases h

theorem new_prefix_of_foldlM {rows : List Text} (h : rows.foldlM Patching.row? st = some st') :
    st.new <+: st'.new := by
  induction rows generalizing st with
  | nil => cases h; exact List.prefix_rfl
  | cons row rows ih =>
    rw [List.foldlM_cons] at h
    obtain ⟨st₁, hrow, hrest⟩ := Option.bind_eq_some_iff.1 h
    exact (new_prefix_of_row? hrow).trans (ih hrest)

theorem eq_of_after? {lead t rest : Text} (h : after? lead t = some rest) : t = lead ++ rest := by
  unfold after? Text.startsWith at h
  split at h
  next hlead =>
    obtain ⟨rest', rfl⟩ := List.isPrefixOf_iff_prefix.1 hlead
    rw [List.drop_left] at h
    rw [Option.some.inj h]
  next => cases h

theorem take?_append {line : Text} (h : st.take? line = some st') (hmore : more ≠ []) :
    st.take? (line ++ more) = none := by
  obtain ⟨old, read, new, oldLeft, newLeft⟩ := st
  cases old with
  | nil => cases h
  | cons next old =>
  cases oldLeft with
  | zero => cases h
  | succ left =>
    unfold Patching.take? at h ⊢
    dsimp only at h ⊢
    split at h
    next heq =>
      refine if_neg fun hlonger => hmore ?_
      rw [heq] at hlonger
      exact List.self_eq_append_right.1 hlonger
    next => cases h

theorem row?_append (hbody : after? "@@ -" row = none) (hrow : st.row? row = some st') (hmore : more ≠ []) :
    st.row? (row ++ more) = none ∨ ∃ line, row = "+" ++ line ∧ st'.new = st.new ++ [line] ∧
      ∀ st'', st.row? (row ++ more) = some st'' → st''.new = st.new ++ [line ++ more] := by
  by_cases hstart : st.oldLeft = 0 ∧ st.newLeft = 0
  · rw [Patching.row?, if_pos hstart] at hrow
    unfold Patching.begin? heading? at hrow
    rw [hbody] at hrow
    cases hrow
  · rw [Patching.row?, if_neg hstart] at hrow
    split at hrow
    next line hline =>
      rw [eq_of_after? hline, List.append_assoc]
      obtain ⟨st₁, htake, -⟩ := Option.bind_eq_some_iff.1 hrow
      refine .inl ?_
      rw [Patching.row?, if_neg hstart, after?_append]
      dsimp only
      rw [take?_append htake hmore]
      rfl
    next line hline _ =>
      rw [eq_of_after? hline, List.append_assoc]
      have hequal : after? " " ("-" ++ (line ++ more)) = none := rfl
      refine .inl ?_
      rw [Patching.row?, if_neg hstart, hequal, after?_append]
      exact take?_append hrow hmore
    next line hline _ _ =>
      rw [eq_of_after? hline, List.append_assoc]
      have hequal : after? " " ("+" ++ (line ++ more)) = none := rfl
      have htaken : after? "-" ("+" ++ (line ++ more)) = none := rfl
      refine .inr ⟨line, rfl, new_of_give? hrow, fun st'' h => ?_⟩
      rw [Patching.row?, if_neg hstart, hequal, htaken, after?_append] at h
      exact new_of_give? h
    next => cases hrow

theorem applied?_append {old new new' : List Text} {post' : List Text} (hbody : after? "@@ -" row = none)
    (h : applied? (pre ++ row :: post) old = some new) (hmore : more ≠ [])
    (h' : applied? (pre ++ (row ++ more) :: post') old = some new') :
    ∃ line front back back', row = "+" ++ line ∧ new = front ++ line :: back ∧
      new' = front ++ (line ++ more) :: back' := by
  unfold applied? at h h'
  obtain ⟨last, hfold, hlast⟩ := Option.bind_eq_some_iff.1 h
  obtain ⟨last', hfold', hlast'⟩ := Option.bind_eq_some_iff.1 h'
  rw [List.foldlM_append] at hfold hfold'
  obtain ⟨st, hpre, hfold⟩ := Option.bind_eq_some_iff.1 hfold
  obtain ⟨st', hpre', hfold'⟩ := Option.bind_eq_some_iff.1 hfold'
  cases hpre.symm.trans hpre'
  rw [List.foldlM_cons] at hfold hfold'
  obtain ⟨st₁, hrow, hpost⟩ := Option.bind_eq_some_iff.1 hfold
  obtain ⟨st₂, hrow', hpost'⟩ := Option.bind_eq_some_iff.1 hfold'
  rcases row?_append hbody hrow hmore with hnone | ⟨line, hplus, hnew, hnew'⟩
  · rw [hnone] at hrow'
    cases hrow'
  · obtain ⟨back, hback⟩ := new_prefix_of_foldlM hpost
    obtain ⟨back', hback'⟩ := new_prefix_of_foldlM hpost'
    rw [hnew, List.append_assoc] at hback
    rw [hnew' st₂ hrow', List.append_assoc] at hback'
    split at hlast
    next =>
      split at hlast'
      next =>
        cases hlast
        cases hlast'
        refine ⟨line, st.new, back ++ last.old, back' ++ last'.old, hplus, ?_, ?_⟩
        · rw [← hback, List.append_assoc]
          rfl
        · rw [← hback', List.append_assoc]
          rfl
      next => cases hlast'
    next => cases hlast

end

end Phrasebook.Diff
