import Phrasebook.Run.Session

/-!
The project file. A project without one has the default settings; one that cannot be read, or whose
languages are no list, is refused.
-/

namespace Phrasebook

def settingsFile : Text := "i18nexus.config.json"

inductive DocumentFault
  | undecodable (fault : Utf8.DecodeFault)
  | malformed (fault : Json.ReadFault)
  | tooManyDigits (count : Nat)

/-- A JSON document in a file: line ends are folded, and an empty file is an empty object. -/
def readDocument (bytes : Bytes) : Except DocumentFault Json :=
  match Utf8.decode bytes with
  | .error f => .error (.undecodable f)
  | .ok t =>
    if t.isEmpty then .ok (.obj [])
    else (Json.read (Text.foldLineEnds t)).mapError fun f =>
      match f.refusal with
      | .digits count => .tooManyDigits count
      | _ => .malformed f

def readMembers (store : Store) (path : FilePath) : Except Fault (List (Text × Json)) := do
  let shown := path.toText
  match store.read path with
  | .error (.system f) => throw (.settings (.inaccessible shown f))
  | .error f => throw f
  | .ok bytes =>
    match readDocument bytes with
    | .error (.undecodable f) => throw (.settings (.undecodable shown f))
    | .error (.malformed f) => throw (.settings (.malformed shown f))
    | .error (.tooManyDigits count) => throw (.tooManyDigits count)
    | .ok (.obj members) => return members
    | .ok _ => throw (.settings (.notObject shown))

def isFilledList : Option Json → Bool
  | some (.arr items) => !items.isEmpty
  | _ => false

def loadMembers (path : FilePath) (silent : Bool) : Session (List (Text × Json)) := do
  let store := (← get).store
  let isThere ← store.isThere path
  if !isThere then
    if !silent then Session.print (path.name ++ " not found, using default configuration")
    return defaultMembers
  let members ← readMembers store path
  let merged := Json.putAll defaultMembers members
  if isFilledList (Json.find? merged "languages") then
    Session.say .debug ("Loaded config from " ++ path.toText)
    return merged
  else throw (.settings (.noLanguages path.toText))

end Phrasebook
