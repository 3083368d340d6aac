import Phrasebook.Script.CharSet

/-!
Patterns that say which script a text is looked through for.
-/

namespace Phrasebook

inductive Anchor
  | textStart
  | lineStart
  | lastLineEnd
  | lineEnd
  | textEnd
  /-- The edge of a word, or not one; `latin` as for kinds of characters. -/
  | wordEdge (latin inverted : Bool)
deriving DecidableEq

inductive Greed
  | most
  | fewest
  | possessive
deriving DecidableEq

inductive PatternTree
  | empty
  | one (set : CharSet)
  | anchor (anchor : Anchor)
  | seq (first second : PatternTree)
  | never
  | alt (left right : PatternTree)
  | rep (greed : Greed) (least : Nat) (most : Option Nat) (body : PatternTree)
  | group (index : Nat) (body : PatternTree)
  | again (rule : CaseRule) (index : Nat)
  | given (index : Nat) (yes : PatternTree)
  | givenElse (index : Nat) (yes no : PatternTree)
  /-- What is to follow, or what is to come before when a width is given. -/
  | look (negated : Bool) (back : Option Nat) (body : PatternTree)
  | atomic (body : PatternTree)

namespace PatternTree

inductive Head
  | nothing
  /-- A literal or a plain set, which can be looked for before anything is tried. -/
  | char (set : CharSet)
  | other

def head : PatternTree → Head
  | empty => .nothing
  | one set => if set.style = .literal ∨ set.style = .plain then .char set else .other
  | seq first second =>
    match head first with
    | .nothing => head second
    | found => found
  | _ => .other

def opening (t : PatternTree) (next : Option CharSet) : Option CharSet :=
  match t.head with
  | .nothing => next
  | .char set => if set.style = .literal then some set else none
  | .other => none

end PatternTree

structure Pattern where
  tree : PatternTree
  least : Nat := 0
  /-- The characters at which a match may begin, where they are known beforehand. -/
  start : Option CharSet := none

def Pattern.hangul : Pattern :=
  let syllable : CharSet := { members := [.range 0xAC00 0xD7A3] }
  { tree := .one syllable, least := 1, start := some syllable }

end Phrasebook
