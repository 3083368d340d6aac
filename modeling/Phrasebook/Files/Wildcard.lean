import Phrasebook.Text.Basic

/-!
Wildcards: `*` stands for any text, slashes included, `?` for one character, and a bracket for one
of the characters in it, or for any other when it begins with an exclamation mark.
-/

namespace Phrasebook

inductive Wild
  | star
  | any
  | exactly (c : CodePoint)
  | oneOf (negated : Bool) (singles : List CodePoint) (ranges : List (CodePoint × CodePoint))

namespace Wild

def hyphen : CodePoint := CodePoint.ofChar '-'

/-- The parts of a bracket between the hyphens that make ranges. A hyphen makes one unless it comes
first, last, or right after the end of a range. -/
def chunksFrom : Nat → Text → Text → List Text
  | _, current, [] => [current]
  | skip + 1, current, c :: rest => chunksFrom skip (current ++ [c]) rest
  | 0, current, c :: rest =>
    if c = hyphen then
      if rest.isEmpty then [current ++ [c]] else current :: chunksFrom 2 [] rest
    else chunksFrom 0 (current ++ [c]) rest

def dropEmptyRanges : List Text → List Text
  | [] => []
  | chunk :: rest =>
    match dropEmptyRanges rest with
    | [] => [chunk]
    | next :: others =>
      match chunk.getLast?, next.head? with
      | some low, some high =>
        if high.val < low.val then (chunk.dropLast ++ next.drop 1) :: others
        else chunk :: next :: others
      | _, _ => chunk :: next :: others

def rangesOf : List Text → List (CodePoint × CodePoint)
  | a :: b :: rest =>
    match a.getLast?, b.head? with
    | some low, some high => (low, high) :: rangesOf (b :: rest)
    | _, _ => rangesOf (b :: rest)
  | _ => []

def isBang (c : CodePoint) : Bool := c.val == 0x21

/-- The element of a bracket with the given content. Whether it is negated is seen once backward
ranges are gone. -/
def ofBracket (content : Text) : Wild :=
  let lead := if content.head?.any isBang then 2 else 1
  match dropEmptyRanges (chunksFrom lead [] content) with
  | first :: rest =>
    let negated := first.head?.any isBang
    let parts := (if negated then first.drop 1 else first) :: rest
    .oneOf negated parts.flatten (rangesOf parts)
  | [] => .oneOf false [] []

/-- The size of the content of a bracket ahead, when it is closed: an exclamation mark and a
closing bracket that come first belong to it. -/
def bracketSize? (t : Text) : Option Nat :=
  let lead := if t.head?.any isBang then 1 else 0
  let lead := if (t.drop lead).head?.any (fun c => c.val == 0x5D) then lead + 1 else lead
  let rest := t.drop lead
  let body := rest.takeWhile fun c => c.val != 0x5D
  if body.length < rest.length then some (lead + body.length) else none

def readFrom : Nat → Text → List Wild
  | _, [] => []
  | skip + 1, _ :: rest => readFrom skip rest
  | 0, c :: rest =>
    if c.val = 0x2A then star :: readFrom 0 rest
    else if c.val = 0x3F then any :: readFrom 0 rest
    else if c.val = 0x5B then
      match bracketSize? rest with
      | some size => ofBracket (rest.take size) :: readFrom (size + 1) rest
      | none => exactly c :: readFrom 0 rest
    else exactly c :: readFrom 0 rest

def read (t : Text) : List Wild := readFrom 0 t

def fits (c : CodePoint) : Wild → Bool
  | star => false
  | any => true
  | exactly d => c == d
  | oneOf negated singles ranges =>
    let isWithin (r : CodePoint × CodePoint) := r.1.val ≤ c.val && c.val ≤ r.2.val
    (singles.contains c || ranges.any isWithin) != negated

def someEnd (p : Text → Bool) : Text → Bool
  | [] => p []
  | c :: rest => p (c :: rest) || someEnd p rest

def matchesAll : List Wild → Text → Bool
  | [], t => t.isEmpty
  | star :: ws, t => someEnd (matchesAll ws) t
  | w :: ws, t =>
    match t with
    | [] => false
    | c :: rest => w.fits c && matchesAll ws rest

end Wild

def matchesWildcard (wildcard t : Text) : Bool := Wild.matchesAll (Wild.read wildcard) t

def isWildcard (t : Text) : Bool := t.any fun c => c.val == 0x2A || c.val == 0x3F || c.val == 0x5B

end Phrasebook
