import Phrasebook.Script.Pattern

/-!
Patterns as they are written, before their flags are applied, and how wide a match can be.
-/

namespace Phrasebook

/-- Flags of a pattern, each written as a letter. -/
inductive PatternFlag
  | ignoreCase
  | multiline
  | dotAll
  | verbose
  | latin
  | unicode
  | template
deriving DecidableEq

/-- Anchors as they are written; what some of them mean depends on the flags. -/
inductive AnchorSign
  | caret
  | dollar
  | textStart
  | textEnd
  | edge
  | noEdge
deriving DecidableEq

/-- Items of a pattern that hold no other pattern. -/
inductive Atom
  | point (value : Nat)
  | otherThan (value : Nat)
  | set (negated : Bool) (members : List Member)
  | any
  | anchor (sign : AnchorSign)
  | again (group : Nat)
deriving DecidableEq

inductive PatternSyntax
  | empty
  | atom (atom : Atom)
  | seq (first second : PatternSyntax)
  | never
  | alt (left right : PatternSyntax)
  | rep (greed : Greed) (least : Nat) (most : Option Nat) (body : PatternSyntax)
  /-- A group, counted or not, with the flags that it turns on and off. -/
  | group (index : Option Nat) (on off : List PatternFlag) (body : PatternSyntax)
  | given (index : Nat) (yes no : PatternSyntax)
  | look (behind negated : Bool) (body : PatternSyntax)
  | atomic (body : PatternSyntax)

namespace PatternSyntax

def ofItems : List PatternSyntax → PatternSyntax
  | [] => empty
  | [item] => item
  | item :: rest => seq item (ofItems rest)

def items : PatternSyntax → List PatternSyntax
  | empty => []
  | seq first second => first :: second.items
  | item => [item]

def ofChoices (choices : List PatternSyntax) : PatternSyntax := choices.foldr alt never

def widest : Nat := 4294967295

/-- A width with its parts kept within what is told apart; the least one stays below the greatest
one that there is. -/
def capped (w : Nat × Nat) : Nat × Nat := (min w.1 (widest - 1), min w.2 widest)

/-- The least and the greatest number of characters that a match takes, given those of the
groups. -/
def width (groups : Nat → Nat × Nat) : PatternSyntax → Nat × Nat
  | empty => (0, 0)
  | never => (widest - 1, 0)
  | atom (.anchor _) => (0, 0)
  | atom (.again g) => groups g
  | atom _ => (1, 1)
  | seq first second =>
    let (a, b) := width groups first
    let (c, d) := width groups second
    capped (a + c, b + d)
  | alt left right =>
    let (a, b) := width groups left
    let (c, d) := width groups right
    (min a c, max b d)
  | rep _ least most body =>
    let (a, b) := width groups body
    capped (a * least, b * most.getD widest)
  | group _ _ _ body => width groups body
  | given _ yes no =>
    let (a, b) := width groups yes
    let (c, d) := width groups no
    (min a c, max b d)
  | look _ _ _ => (0, 0)
  | atomic body => width groups body

def first : PatternSyntax → PatternSyntax
  | seq first _ => first
  | item => item

def hoist : List PatternSyntax → List (List PatternSyntax) → List Atom × List (List PatternSyntax)
  | atom a :: rest, others =>
    let sameHead (choice : List PatternSyntax) : Bool := match choice with
      | atom b :: _ => a == b
      | _ => false
    if others.all sameHead then
      let (shared, choices) := hoist rest (others.map List.tail)
      (a :: shared, choices)
    else ([], (atom a :: rest) :: others)
  | first, others => ([], first :: others)

def members? : List PatternSyntax → Option (List Member)
  | [atom (.point n)] => some [.point n]
  | [atom (.set false members)] => some members
  | _ => none

/-- Alternatives as one run of items: a common front comes first, and single characters and sets
become one set. -/
def ofAlternatives : List (List PatternSyntax) → List PatternSyntax
  | [] => []
  | [items] => items
  | first :: others =>
    let (shared, choices) := hoist first others
    let last := match choices.mapM members? with
      | some members => atom (.set false members.flatten)
      | none => ofChoices (choices.map ofItems)
    shared.map atom ++ [last]

def ungroup (items : List PatternSyntax) : List PatternSyntax :=
  items.flatMap fun item => match item with
    | group none [] [] body => body.items
    | item => [item]

end PatternSyntax
end Phrasebook
