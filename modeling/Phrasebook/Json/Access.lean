import Phrasebook.Decimal.Number
import Phrasebook.Fault
import Phrasebook.Json.Basic

/-!
Numbers in JSON values, and when two values are the same: truth values count as one and zero, whole
numbers and doubles are compared by their size, and the order of members does not matter.
-/

namespace Phrasebook.Json

def number? : Json → Option Number
  | bool b => some (.whole (if b then 1 else 0))
  | int n => some (.whole n)
  | float x => some (.double x)
  | _ => none

mutual

def same : Json → Json → Bool
  | null, null => true
  | str s, str t => s == t
  | arr xs, arr ys => sameItems xs ys
  | obj xs, obj ys => xs.length == ys.length && sameMembers xs ys
  | a, b =>
    match a.number?, b.number? with
    | some x, some y => x.same y
    | _, _ => false

def sameItems : List Json → List Json → Bool
  | [], [] => true
  | a :: as, b :: bs => same a b && sameItems as bs
  | _, _ => false

def sameMembers : List (Text × Json) → List (Text × Json) → Bool
  | [], _ => true
  | (k, v) :: rest, others =>
    match find? others k with
    | none => false
    | some w => same v w && sameMembers rest others

end

end Phrasebook.Json

/-!
Values taken as what they should be: as lists, as members of an object, as texts and as numbers. A value
of another type is refused: by what it lacks, where something a text has is asked of it, or for its type.
-/

namespace Phrasebook.Json

/-- The items of a value: those of a list, the characters of a text, the keys of an object. -/
def items : Json → Except Fault (List Json)
  | arr items => .ok items
  | str t => .ok (t.map fun c => str [c])
  | obj members => .ok (members.map fun m => str m.1)
  | _ => .error .wrongType

def pair (v : Json) : Except Fault (Json × Json) := do
  match ← v.items with
  | [a, b] => return (a, b)
  | others => throw (.noPair others.length)

def putAll (members others : List (Text × Json)) : List (Text × Json) :=
  others.foldl (fun ms (k, v) => put ms k v) members

def pairMembers (k : Nat) : List Json → Except Fault (List (Text × Json))
  | [] => .ok []
  | pair :: rest => do
    match ← pair.items with
    | [str key, value] => return (key, value) :: (← pairMembers (k + 1) rest)
    | [_, _] => throw .wrongType
    | parts => throw (.pairLength k parts.length)

/-- The members that a value spells: those of an object, or the pairs of a list. Nothing and what
counts as nothing has none. -/
def toMembers (v : Json) : Except Fault (List (Text × Json)) :=
  if !v.isSet then .ok []
  else match v with
    | obj members => .ok members
    | v => do return putAll [] (← pairMembers 0 (← v.items))

def asText : Json → Except Fault Text
  | str t => .ok t
  | _ => .error .noOperation

def onlyText : Json → Except Fault Text
  | str t => .ok t
  | _ => .error .wrongType

def asSource (v : Json) : Except Fault Text := do
  let t ← v.asText
  let _ ← Utf8.encode t
  return t

def asInt : Json → Except Fault Int
  | int n => .ok n
  | bool b => .ok (if b then 1 else 0)
  | _ => .error .wrongType

def asNumber (v : Json) : Except Fault Number :=
  match v.number? with
  | some n => .ok n
  | none => .error .wrongType

def sequence : Json → Except Fault (List Json)
  | obj _ => .error .wrongType
  | v => v.items

def asNamed : Json → Except Fault (List (Text × Json))
  | obj members => .ok members
  | null => .ok []
  | _ => .error .wrongType

end Phrasebook.Json
