import Phrasebook.Text.Basic

/-!
Which lines two texts have in common: the longest block of equal lines, and the same again on
either side of it. Among long texts, lines that are too frequent do not start a block.
-/

namespace Phrasebook.Diff

/-- Two sequences of lines, with the places in the second where each line of the first can start a
block. -/
structure Sides where
  left : Array Text
  right : Array Text
  places : Array (List Nat)

def longFrom : Nat := 200

/-- The places of a line in the second sequence, none when it is frequent in a long one. -/
def placesOf (right : List Text) (line : Text) : List Nat :=
  let found := (right.zipIdx.filter fun (l, _) => l == line).map (·.2)
  let count := right.length
  if longFrom ≤ count && count / 100 + 1 < found.length then [] else found

def Sides.of (left right : List Text) : Sides :=
  ⟨left.toArray, right.toArray, (left.map (placesOf right)).toArray⟩

/-- Equal lines: where they begin on each side, and how many they are. -/
structure Block where
  left : Nat
  right : Nat
  size : Nat
deriving DecidableEq

structure Window where
  leftStart : Nat
  leftStop : Nat
  rightStart : Nat
  rightStop : Nat

/-- The lengths of the blocks that end at one line of the first sequence, by their last place in
the second, given those that end one line earlier. -/
def lengthsAt (s : Sides) (w : Window) (i : Nat) (earlier : List (Nat × Nat)) : List (Nat × Nat) :=
  ((s.places.getD i []).filter fun j => w.rightStart ≤ j && j < w.rightStop).map fun j =>
    (j, ((earlier.find? fun e => e.1 + 1 == j).map (·.2)).getD 0 + 1)

def bestFrom (s : Sides) (w : Window) : Nat → Nat → List (Nat × Nat) → Block → Block
  | 0, _, _, best => best
  | fuel + 1, i, earlier, best =>
    if i < w.leftStop then
      let lengths := lengthsAt s w i earlier
      let best := lengths.foldl (fun (b : Block) (j, k) =>
        if b.size < k then ⟨i + 1 - k, j + 1 - k, k⟩ else b) best
      bestFrom s w fuel (i + 1) lengths best
    else best

def equalBefore (s : Sides) (w : Window) : Nat → Nat → Nat → Nat
  | 0, _, _ => 0
  | fuel + 1, i, j =>
    if w.leftStart < i && w.rightStart < j && s.left.getD (i - 1) [] == s.right.getD (j - 1) [] then
      equalBefore s w fuel (i - 1) (j - 1) + 1
    else 0

def equalAfter (s : Sides) (w : Window) : Nat → Nat → Nat → Nat
  | 0, _, _ => 0
  | fuel + 1, i, j =>
    if i < w.leftStop && j < w.rightStop && s.left.getD i [] == s.right.getD j [] then
      equalAfter s w fuel (i + 1) (j + 1) + 1
    else 0

def longest (s : Sides) (w : Window) : Block :=
  let best := bestFrom s w (w.leftStop - w.leftStart) w.leftStart [] ⟨w.leftStart, w.rightStart, 0⟩
  let back := equalBefore s w best.left best.left best.right
  let start : Block := ⟨best.left - back, best.right - back, best.size + back⟩
  let ahead := equalAfter s w w.leftStop (start.left + start.size) (start.right + start.size)
  { start with size := start.size + ahead }

def blocksIn (s : Sides) : Nat → Window → List Block
  | 0, _ => []
  | fuel + 1, w =>
    let b := longest s w
    if b.size = 0 then []
    else
      let before := if w.leftStart < b.left && w.rightStart < b.right then
        blocksIn s fuel ⟨w.leftStart, b.left, w.rightStart, b.right⟩ else []
      let after := if b.left + b.size < w.leftStop && b.right + b.size < w.rightStop then
        blocksIn s fuel ⟨b.left + b.size, w.leftStop, b.right + b.size, w.rightStop⟩ else []
      before ++ b :: after

def joinTouching : List Block → List Block
  | [] => []
  | b :: rest =>
    match joinTouching rest with
    | [] => [b]
    | next :: more =>
      if b.left + b.size = next.left ∧ b.right + b.size = next.right then
        ⟨b.left, b.right, b.size + next.size⟩ :: more
      else b :: next :: more

def blocks (left right : List Text) : List Block :=
  let s := Sides.of left right
  joinTouching (blocksIn s (left.length + 1) ⟨0, left.length, 0, right.length⟩)

end Phrasebook.Diff
