import Phrasebook.Json.Access
import Phrasebook.Keys.Extract

/-!
Extracted keys as a table: one line per key with the key, an empty column and the default text.
-/

namespace Phrasebook.Keys

def needsQuotes (c : CodePoint) : Bool :=
  c.val == 0x2C || c.val == 0x22 || c.val == 0x0A || c.val == 0x0D

def escapeField (value : Text) : Text :=
  if value.any needsQuotes then
    "\"" ++ value.flatMap (fun c => if c.val = 0x22 then [c, c] else [c]) ++ "\""
  else value

def escapeValue (v : Json) : Except Fault Json :=
  let special (t : Text) : Bool := t.length == 1 && t.any needsQuotes
  match v with
  | .str t => .ok (.str (escapeField t))
  | .arr items =>
    if items.any fun i => i.str?.any special then .error .noOperation else .ok (.arr items)
  | .obj members =>
    if members.any fun m => special m.1 then .error .noOperation else .ok (.obj members)
  | _ => .error .wrongType

/-- The text a key stands for: its default text, unless that is missing or empty, or else itself. -/
def Key.text (k : Key) : Text :=
  match k.defaultValue with
  | some (c :: rest) => c :: rest
  | _ => k.key

def sheetHeader : Text := "Key,English,Korean"

def Key.row (k : Key) : Text :=
  Text.join "," [escapeField k.key, escapeField [], escapeField k.text]

def sheet (keys : List Key) : Text := Text.join "\n" (sheetHeader :: keys.map Key.row)

def ordered (sort : Bool) (keys : List Key) : List Key :=
  if sort then keys.mergeSort fun a b => Text.le a.key b.key else keys

end Phrasebook.Keys

/-!
Locale files: one object per language from keys to texts, brought up to date without losing what
was put there by hand.
-/

namespace Phrasebook.Keys

abbrev Data := List (Text × Json)

def valueOr (entry : Text × Json) : Json := if entry.2.isSet then entry.2 else .str entry.1

def dataOf (entries : List (Text × Json)) : Data :=
  entries.foldl (fun data e => Json.put data e.1 (valueOr e)) []

def texts (keys : List Key) : Data := dataOf (keys.map fun k => (k.key, .str k.text))

/-- What a language gets for a key: its text in the default language, nothing in any other. -/
def valueFor (isDefault : Bool) (entry : Text × Json) : Json :=
  if isDefault then valueOr entry else .str []

/-- What a file holds after new texts: everything anew when forced, otherwise all that it held and
then what is missing. -/
def mergeAs (isDefault : Bool) (data : Data) (existing : List (Text × Json)) (force : Bool) :
    List (Text × Json) :=
  if force then data.foldl (fun ms e => Json.put ms e.1 (valueFor isDefault e)) []
  else data.foldl (fun ms e =>
    if ms.any fun m => m.1 == e.1 then ms else ms ++ [(e.1, valueFor isDefault e)]) existing

def merge (data : Data) (existing : List (Text × Json)) (language defaultLanguage : Json)
    (force : Bool) : List (Text × Json) :=
  mergeAs (language.same defaultLanguage) data existing force

def indexModule (languages : List Text) : Text :=
  Text.join "\n" (languages.map fun l => "import " ++ l ++ " from \"./" ++ l ++ ".json\";") ++
    "\n\nexport const translations = \x7b\n" ++
    Text.join "\n" (languages.map fun l => "  " ++ l ++ ": " ++ l ++ ",") ++ "\n\x7d;\n"

end Phrasebook.Keys
