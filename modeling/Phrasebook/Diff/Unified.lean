import Phrasebook.Diff.Matching
import Phrasebook.Files.FilePath
import Phrasebook.Text.Lines

/-!
Unified diffs: the changed lines of two texts in hunks with three lines around them.
-/

namespace Phrasebook.Diff

/-- A stretch of both texts: equal on both sides, or changed. -/
structure Stretch where
  isEqual : Bool
  leftStart : Nat
  leftStop : Nat
  rightStart : Nat
  rightStop : Nat
deriving DecidableEq

def stretchesFrom (i j : Nat) : List Block → List Stretch
  | [] => []
  | b :: rest =>
    let changed := if i < b.left || j < b.right then [⟨false, i, b.left, j, b.right⟩] else []
    let equal := if b.size = 0 then [] else
      [⟨true, b.left, b.left + b.size, b.right, b.right + b.size⟩]
    changed ++ equal ++ stretchesFrom (b.left + b.size) (b.right + b.size) rest

def stretches (left right : List Text) : List Stretch :=
  stretchesFrom 0 0 (blocks left right ++ [⟨left.length, right.length, 0⟩])

def context : Nat := 3

def Stretch.tail (s : Stretch) : Stretch :=
  { s with leftStart := max s.leftStart (s.leftStop - context)
           rightStart := max s.rightStart (s.rightStop - context) }

def Stretch.head (s : Stretch) : Stretch :=
  { s with leftStop := min s.leftStop (s.leftStart + context)
           rightStop := min s.rightStop (s.rightStart + context) }

def trimFirst : List Stretch → List Stretch
  | s :: rest => if s.isEqual then s.tail :: rest else s :: rest
  | [] => []

def trimLast : List Stretch → List Stretch
  | [] => []
  | [s] => if s.isEqual then [s.head] else [s]
  | s :: rest => s :: trimLast rest

def hunksFrom (current : List Stretch) : List Stretch → List (List Stretch)
  | [] => [current]
  | s :: rest =>
    if s.isEqual && 2 * context < s.leftStop - s.leftStart then
      (current ++ [s.head]) :: hunksFrom [s.tail] rest
    else hunksFrom (current ++ [s]) rest

def hunks (left right : List Text) : List (List Stretch) :=
  (hunksFrom [] (trimLast (trimFirst (stretches left right)))).filter fun h =>
    !h.isEmpty && !(h.length == 1 && h.all (·.isEqual))

def range (start stop : Nat) : Text :=
  let length := stop - start
  if length = 1 then Text.ofNat (start + 1)
  else Text.ofNat (if length = 0 then start else start + 1) ++ "," ++ Text.ofNat length

def marked (mark : Text) (lines : List Text) (start stop : Nat) : Text :=
  ((lines.drop start).take (stop - start)).flatMap fun l => mark ++ l

def Stretch.render (left right : List Text) (s : Stretch) : Text :=
  if s.isEqual then marked " " left s.leftStart s.leftStop
  else marked "-" left s.leftStart s.leftStop ++ marked "+" right s.rightStart s.rightStop

def renderHunk (left right : List Text) (hunk : List Stretch) : Text :=
  match hunk.head?, hunk.getLast? with
  | some first, some last =>
    "@@ -" ++ range first.leftStart last.leftStop ++ " +" ++
      range first.rightStart last.rightStop ++ " @@\n" ++ hunk.flatMap (Stretch.render left right)
  | _, _ => []

def unified (a b path : Text) : Text :=
  let left := Text.lines a
  let right := Text.lines b
  match hunks left right with
  | [] => []
  | found => "--- a/" ++ path ++ "\n+++ b/" ++ path ++ "\n" ++ found.flatMap (renderHunk left right)

end Phrasebook.Diff
