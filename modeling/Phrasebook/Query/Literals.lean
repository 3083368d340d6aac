import Phrasebook.Json.Access
import Phrasebook.Literal.Exclusion
import Phrasebook.Scope.Functions
import Phrasebook.Settings.Resolve
import Phrasebook.Wrap.Call

/-!
Questions about literals, comments and names whose arguments are values of any type.
-/

namespace Phrasebook.Query

def script (v : Json) : Except Fault Pattern := if v.isSet then scriptOf v else .ok .hangul

/-- Whether one of some parts is a phrase. The parts up to the first phrase must be texts. -/
def anyPhrase (script : Pattern) : List Json → Except Fault Bool
  | [] => .ok false
  | part :: rest => do
    if ← Literal.isPhrase script [← part.asText] then return true else anyPhrase script rest

def isPhrase (v pattern : Json) : Except Fault Bool := do
  let script ← script pattern
  match v with
  | .str t => Literal.isPhrase script [t]
  | v => anyPhrase script (← v.items)

def isIgnoreComment (comment marker : Json) : Except Fault Bool := do
  let t ← comment.asText
  return Literal.isIgnoreComment (← marker.onlyText) t

def markerIn (marker line : Json) : Except Fault Bool :=
  match line, marker with
  | .str l, .str m => .ok (Text.hasInfix m l)
  | .arr items, m => .ok (items.any m.same)
  | .obj members, .str m => .ok (members.any fun e => e.1 == m)
  | .obj _, .arr _ | .obj _, .obj _ => .error .wrongType
  | .obj _, _ => .ok false
  | _, _ => .error .wrongType

def anyMarked (marker : Json) : List Json → Except Fault Bool
  | [] => .ok false
  | line :: rest => do
    if ← markerIn marker line then return true else anyMarked marker rest

def lineHasMarker (lines row marker : Json) : Except Fault Bool := do
  if row.isNull then return false
  let row ← row.asInt
  let lines ← lines.sequence
  anyMarked marker ((takeTo (row + 1) lines).drop (row - 2).toNat)

/-- A call of a function with a key, and with options given as pairs of a name and a text. -/
def lookupCall (function : Text) (key options : Json) : Except Fault Node := do
  let pairs ← if options.isSet then (← options.items).mapM Json.pair else .ok []
  let members ← pairs.mapM fun (name, e) => do return (textOf name, Node.leaf (← e.asText))
  return Wrap.callWith function (Escape.encodeValue key) members

/-- Static parts with names between them. Only the parts that are used must be texts; an object has
no part of any number. -/
def interpolate (quasis names : Json) : Except Fault Text := do
  if let .obj _ := quasis then throw .noEntry
  match ← quasis.sequence with
  | [] => throw .emptyList
  | first :: rest =>
    let names := (← names.items).map textOf
    let used ← (first :: rest.take names.length).mapM Json.onlyText
    Placeholder.interpolate used names

def isComponentName (name : Json) : Except Fault Bool := do
  if name.isSet then return Scope.isComponentName (← name.onlyText) else return false

end Phrasebook.Query
