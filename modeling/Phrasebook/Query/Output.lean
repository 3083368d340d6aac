import Phrasebook.Files.Lookup
import Phrasebook.Json.Access
import Phrasebook.Keys.Locale
import Phrasebook.Log
import Phrasebook.Timing.Monitor

/-!
Questions about what is written, reported and logged, whose arguments are values of any type.
-/

namespace Phrasebook.Query

abbrev Entry := Json × Json

def row (v : Json) : Except Fault Entry := do
  match ← v.items with
  | [] => throw .wrongType
  | key :: rest =>
    if 3 < rest.length then throw .wrongType
    return (key, rest.headD .null)

def valueOr (e : Entry) : Json := if e.2.isSet then e.2 else e.1

def ordered (entries : List Entry) : Except Fault (List Entry) :=
  let texts := entries.mapM fun e => e.1.str?.map fun t => (t, e)
  let numbers := entries.mapM fun e => e.1.number?.map fun n => (n, e)
  match texts, numbers with
  | some pairs, _ => .ok ((pairs.mergeSort fun a b => Text.le a.1 b.1).map (·.2))
  | none, some pairs => .ok ((pairs.mergeSort fun a b => Number.le a.1 b.1).map (·.2))
  | none, none => if entries.length < 2 then .ok entries else .error .wrongType

def put (entries : List Entry) (e : Entry) : Except Fault (List Entry) :=
  match e.1 with
  | .arr _ | .obj _ => .error .wrongType
  | key =>
    if entries.any fun old => old.1.same key then
      .ok (entries.map fun old => if old.1.same key then (old.1, e.2) else old)
    else .ok (entries ++ [e])

def line (e : Entry) : Except Fault Text := do
  let key ← Keys.escapeValue e.1
  let value ← Keys.escapeValue (valueOr e)
  return Text.join "," [← key.onlyText, [], ← value.onlyText]

def output (rows format sort : Json) : Except Fault (Text ⊕ List Entry) := do
  let entries ← (← rows.items).mapM row
  let entries ← if sort.isSet then ordered entries else .ok entries
  if format.same (.str "csv") then
    return .inl (Text.join "\n" (Keys.sheetHeader :: (← entries.mapM line)))
  else return .inr (← entries.foldlM (fun data e => put data (e.1, valueOr e)) [])

/-- The entries of an object or of a list of pairs, from the pair with a given number on. -/
def pairEntries (k : Nat) (found : List Entry) : List Json → Except Fault (List Entry)
  | [] => .ok found
  | pair :: rest => do
    match ← pair.items with
    | [key, value] => pairEntries (k + 1) (← put found (key, value)) rest
    | parts => throw (.pairLength k parts.length)

def entriesOf : Json → Except Fault (List Entry)
  | .obj members => .ok (members.map fun (k, v) => (.str k, v))
  | v => do pairEntries 0 [] (← v.items)

/-- What the file of a language holds after new texts: everything anew when forced, otherwise all
that it held and then what is missing. -/
def merge (data existing language defaultLanguage force : Json) : Except Fault (List Entry) := do
  let data ← entriesOf data
  let existing ← entriesOf existing
  let isDefault := language.same defaultLanguage
  let new := data.map fun e => (e.1, if isDefault then valueOr e else .str [])
  if force.isSet then return new
  else return existing ++ new.filter fun e => !existing.any fun old => old.1.same e.1

def indexModule (languages : Json) : Except Fault Text := do
  return Keys.indexModule ((← languages.items).map textOf)

def timing (v : Json) : Except Fault (Text × Number) := do
  let (path, ms) ← v.pair
  return (textOf path, ← ms.asNumber)

def summary (total timings modified slowest : Json) : Except Fault Text := do
  let entries ← timings.items
  let total ← total.asNumber
  let _ ← Timing.duration total
  let timings ← entries.mapM timing
  let stop ← if slowest.isNull || timings.isEmpty then .ok none else slowest.asInt.map some
  Timing.summary total timings (textOf modified) stop

def compact (v limit : Json) : Except Fault Text := do
  match limit with
  | .float x =>
    if Number.le (.whole v.compact.length) (.double x) then return v.compact else throw .wrongType
  | limit => return Json.summary (← limit.asInt) v

def rankNamed (name default : Json) : Json :=
  ((rankOfName? (textOf name)).map Json.int).getD default

def fromEnvironment? : Json → Except Fault (Option Text)
  | .null => .ok none
  | .str t =>
    if t.nameOctets?.isNone then .error .unencodable
    else if t.any fun c => c.val == 0 then .error .nullCharacter
    else .ok (some t)
  | _ => .error .wrongType

def rankInForce (logger environment default : Json) : Except Fault Json := do
  let named ← fromEnvironment? environment
  if logger.isSet then let _ ← logger.onlyText
  match named.bind rankOfName? with
  | some rank => return .int rank
  | none => rankOf default

def located (reason path line column : Json) : Text :=
  let place := if line.isNull then none
    else some (textOf line, if column.isSet then textOf column else Text.ofNat 0)
  Phrasebook.located (if path.isSet then some (textOf path) else none) place (textOf reason)

end Phrasebook.Query
