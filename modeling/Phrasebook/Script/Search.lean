import Phrasebook.Script.Pattern

/-!
Searching a text for a pattern. The ways to match are tried in one fixed order, and the first that
works out is taken. An attempt leaves a trace, also when it fails: the place it got to, and where
groups began and ended. Some of that outlives the failure, and what is tried next can see it; the
rules for each kind of tree say what is put back and what is not.
-/

namespace Phrasebook

structure Trace where
  place : Nat
  /-- Where groups began and ended: the beginning of group `g` has the index `2 * g - 2`, its end
  the one after. Marks beyond the last one set are not kept. -/
  marks : List (Option Nat) := []

namespace Trace

@[inline] def moved (t : Trace) (place : Nat) : Trace := { t with place }

def mark (t : Trace) (index place : Nat) : Trace :=
  let known := t.marks.length
  let marks := if index < known then t.marks else t.marks ++ List.replicate (index + 1 - known) none
  { t with marks := marks.set index (some place) }

/-- The places between which a group has matched. A group that has begun again and not yet ended
counts only if its former end is not before its new beginning. -/
def extent? (t : Trace) (group : Nat) : Option (Nat × Nat) := do
  let first ← (t.marks[2 * group - 2]?).join
  let last ← (t.marks[2 * group - 1]?).join
  if first ≤ last then some (first, last) else none

/-- The trace after an attempt that failed, given the marks from before it. Inside repetitions they
are put back; elsewhere only the marks are dropped that were not there. -/
def backTo (t : Trace) (nested : Bool) (marks : List (Option Nat)) : Trace :=
  { t with marks := if nested then marks else t.marks.take marks.length }

def isCrossed (t : Trace) : Bool :=
  let rec crossed : List (Option Nat) → Bool
    | some first :: some last :: rest => last < first || crossed rest
    | _ :: _ :: rest => crossed rest
    | _ => false
  crossed t.marks

end Trace

abbrev Attempt := Bool × Trace

/-- What is done if an attempt fails. -/
@[inline] def Attempt.orElse (a : Attempt) (next : Trace → Attempt) : Attempt :=
  if a.1 then a else next a.2

structure Rest where
  opening : Option CharSet := none
  go : Nat → Trace → Attempt

def Rest.done : Rest := { go := fun p t => (true, t.moved p) }

def Rest.hidden (r : Rest) : Rest := { r with opening := none }

structure Times where
  least : Nat
  most : Option Nat

def Times.allowsMore (b : Times) (n : Nat) : Bool := b.most.all fun m => n < m

section Search

variable (text : Array CodePoint)

/-- Whether a set holds the character at a place. -/
@[inline] def CharSet.standsAt (s : CharSet) (p : Nat) : Bool := text[p]?.any s.has

/-- How many characters of a set follow each other from a place on, counted up to a limit. -/
def CharSet.countFrom (s : CharSet) (p : Nat) : Nat → Nat
  | 0 => 0
  | limit + 1 => if s.standsAt text p then countFrom s (p + 1) limit + 1 else 0

/-- Whether a condition holds at a place. In an empty text there is no edge and no lack of one. -/
def Anchor.holdsAt (p : Nat) : Anchor → Bool
  | textStart => p == 0
  | lineStart => p == 0 || text[p - 1]?.any fun c => c.val == 0x0A
  | lastLineEnd => p == text.size || (p + 1 == text.size && text[p]?.any fun c => c.val == 0x0A)
  | lineEnd => text[p]?.all fun c => c.val == 0x0A
  | textEnd => p == text.size
  | wordEdge latin inverted =>
    let isWord (c : CodePoint) : Bool := CharKind.word.has latin c.val
    let before := p != 0 && text[p - 1]?.any isWord
    !text.isEmpty && (before != text[p]?.any isWord) != inverted

def CharSet.counted (s : CharSet) (p n : Nat) (t : Trace) : Trace :=
  t.moved (if s.style = .folded then p + n else p)

def Rest.backingOff (r : Rest) (nested : Bool) (marks : List (Option Nat)) (p : Nat) :
    Nat → Trace → Attempt
  | extra, t =>
    let q := p + extra
    let found : Attempt :=
      if r.opening.all fun s => s.standsAt text q then
        (r.go q (t.moved q)).orElse fun t => (false, t.backTo nested marks)
      else (false, t)
    match extra with
    | 0 => found
    | fewer + 1 => found.orElse (backingOff r nested marks p fewer)

/-- The rest from a place, else from the next one as long as characters of a set follow, at most
`left` of them. -/
def Rest.advancing (r : Rest) (set : CharSet) (nested : Bool) (marks : List (Option Nat)) :
    Nat → Option Nat → Nat → Trace → Attempt
  | 0, _, _, t => (false, t)
  | fuel + 1, left, p, t =>
    (r.go p (t.moved p)).orElse fun t =>
      let t := t.backTo nested marks
      if set.standsAt text p then
        let t := set.counted p 1 t
        if left = some 0 then (false, t)
        else advancing r set nested marks fuel (left.map (· - 1)) (p + 1) t
      else (false, t.moved p)

def CharSet.repeated (set : CharSet) (greed : Greed) (times : Times) (nested : Bool) (r : Rest)
    (p : Nat) (t : Trace) : Attempt :=
  let ahead := text.size - p
  if ahead < times.least then (false, t)
  else
    let limit := match greed with
      | .fewest => times.least
      | _ => (times.most.map (min ahead)).getD ahead
    let n := set.countFrom text p limit
    let t := set.counted p n t
    if n < times.least then (false, t)
    else
      match greed with
      | .most => r.backingOff text nested t.marks (p + times.least) (n - times.least) t
      | .fewest =>
        r.advancing text set nested t.marks (text.size + 1 - p)
          (times.most.map (· - times.least)) (p + n) t
      | .possessive => r.go (p + n) t

/-- A step taken as often as possible, then less often; `done` times it has been taken, and `last`
is where it was taken last beyond the least number of times. -/
def Rest.most (r : Rest) (step : Rest → Nat → Trace → Attempt) (times : Times) :
    Nat → Nat → Option Nat → Nat → Trace → Attempt
  | 0, _, _, _, t => (false, t)
  | fuel + 1, done, last, p, t =>
    let t := t.moved p
    let onward (last : Option Nat) : Rest := { go := most r step times fuel (done + 1) last }
    if done < times.least then
      (step (onward last) p t).orElse fun t => (false, t.moved p)
    else
      let more : Attempt :=
        if times.allowsMore done && last != some p then
          (step (onward (some p)) p t).orElse fun _ => (false, t)
        else (false, t)
      more.orElse fun t => (r.go p t).orElse fun t => (false, t.moved p)

def Rest.fewest (r : Rest) (step : Rest → Nat → Trace → Attempt) (times : Times) (nested : Bool) :
    Nat → Nat → Option Nat → Nat → Trace → Attempt
  | 0, _, _, _, t => (false, t)
  | fuel + 1, done, last, p, t =>
    let t := t.moved p
    let onward (last : Option Nat) : Rest := { go := fewest r step times nested fuel (done + 1) last }
    if done < times.least then
      (step (onward last) p t).orElse fun t => (false, t.moved p)
    else
      (r.go p t).orElse fun failed =>
        let t := (failed.backTo nested t.marks).moved p
        if times.allowsMore done && last != some p then
          (step (onward (some p)) p t).orElse fun t => (false, t.moved p)
        else (false, t)

def exactly (step : Nat → Trace → Attempt) : Nat → Trace → Attempt
  | 0, t => (true, t)
  | n + 1, t =>
    let a := step t.place t
    if a.1 then exactly step n a.2 else a

/-- A step taken as often as possible, each time in its first way. The attempt that fails in the
end has its marks put back, but not its place. -/
def always (step : Nat → Trace → Attempt) : Nat → Option Nat → Option Nat → Trace → Trace
  | 0, _, _, t => t
  | fuel + 1, left, last, t =>
    if left != some 0 && last != some t.place then
      let a := step t.place t
      if a.1 then always step fuel (left.map (· - 1)) (some t.place) a.2
      else { a.2 with marks := t.marks }
    else t

/-- The first way to match a tree at a place and then the rest; `nested` inside the body of a
repetition. -/
def PatternTree.run (nested : Bool) : PatternTree → Rest → Nat → Trace → Attempt
  | empty, rest, p, t => rest.go p t
  | one set, rest, p, t => if set.standsAt text p then rest.go (p + 1) t else (false, t)
  | anchor a, rest, p, t => if a.holdsAt text p then rest.go p t else (false, t)
  | seq first second, rest, p, t =>
    run nested first { opening := second.opening rest.opening, go := run nested second rest } p t
  | never, _, _, t => (false, t)
  | alt left right, rest, p, t =>
    let isOut : Bool := match left.head with
      | .char set => !set.standsAt text p
      | _ => false
    let first : Attempt :=
      if isOut then (false, t)
      else (run nested left rest.hidden p (t.moved p)).orElse fun failed =>
        (false, failed.backTo nested t.marks)
    first.orElse (run nested right rest p)
  | rep greed least most body, rest, p, t =>
    match body with
    | one set => set.repeated text greed ⟨least, most⟩ nested rest p t
    | _ =>
      let enough := least + (text.size + 2) * (text.size + 2)
      match greed with
      | .most => rest.most (run true body) ⟨least, most⟩ enough 0 none p t
      | .fewest => rest.fewest (run true body) ⟨least, most⟩ nested enough 0 none p t
      | .possessive =>
        let a := exactly (run nested body .done) least (t.moved p)
        if a.1 then
          let t := always (run nested body .done) enough (most.map (· - least)) none a.2
          rest.go t.place t
        else (false, a.2.moved p)
  | group index body, rest, p, t =>
    let closing : Rest := { go := fun q t => rest.go q (t.mark (2 * index - 1) q) }
    run nested body closing p (t.mark (2 * index - 2) p)
  | again rule index, rest, p, t =>
    match t.extent? index with
    | some (first, last) =>
      let form (n : Nat) : Option Nat := text[n]?.map fun c => rule.form c.val
      let size := last - first
      if p + size ≤ text.size ∧ (List.range size).all fun i => form (first + i) == form (p + i) then
        rest.go (p + size) t
      else (false, t)
    | none => (false, t)
  | given index yes, rest, p, t =>
    if (t.extent? index).isSome then run nested yes rest p t else rest.go p t
  | givenElse index yes no, rest, p, t =>
    if (t.extent? index).isSome then run nested yes rest.hidden p t else run nested no rest p t
  | look negated back body, rest, p, t =>
    let width := back.getD 0
    if p < width then if negated then rest.go p t else (false, t)
    else
      let a := run nested body .done (p - width) (t.moved (p - width))
      if negated then
        if a.1 then (false, a.2) else rest.go p (a.2.backTo nested t.marks)
      else if a.1 then rest.go p a.2
      else a
  | atomic body, rest, p, t =>
    let a := run nested body .done p (t.moved p)
    if a.1 then rest.go a.2.place a.2 else (false, a.2.moved p)

end Search

inductive Finding
  | absent
  | present
  | crossed
deriving DecidableEq

namespace Pattern

def starts (p : Pattern) (text : Array CodePoint) : List Nat :=
  if text.size < p.least then []
  else
    match p.start with
    | some set => (List.range text.size).filter fun i => set.standsAt text i
    | none => List.range (text.size - (p.least - 1) + 1)

def matchAt? (p : Pattern) (text : Array CodePoint) (start : Nat) : Option Finding :=
  let a := p.tree.run text false .done start { place := start }
  if a.1 then some (if a.2.isCrossed then .crossed else .present) else none

def search (p : Pattern) (t : Text) : Finding :=
  let text := t.toArray
  ((p.starts text).findSome? (p.matchAt? text)).getD .absent

end Pattern
end Phrasebook
