import Phrasebook.Command.Extract
import Phrasebook.Command.Wrap
import Phrasebook.Parse.Record

/-!
The command line: the first argument is `wrapper` or `extractor`, and the others are that
command's. The files below the current folder are read before the command runs, and the files it
changed are written after it. The answers of the parser come from a file of records, which the
variable `PHRASEBOOK_TREES` names.
-/

open Phrasebook

namespace Phrasebook.Main

def stringOf (t : Text) : String := (Text.toString? t).getD ""

/-- Everything at and below an entry of a folder. A path that is not its own real path is a
link. -/
partial def collect (entry : IO.FS.DirEntry) : IO (List (List Text × Item)) := do
  let path := entry.path.toString
  let real := (← IO.FS.realPath entry.path).toString
  let names := (FilePath.parse (Text.ofString path)).names
  if path != real then return [(names, .link (Text.ofString real))]
  if ← entry.path.isDir then
    let below ← (← entry.path.readDir).toList.mapM collect
    return (names, .folder) :: below.flatten
  return [(names, .file (← IO.FS.readBinFile entry.path).toList)]

def readEnvironment : IO Environment := do
  let mut found : Environment := []
  for name in ["I18N_PERF_MONITOR", "I18N_PERF_VERBOSE"] do
    if let some value ← IO.getEnv name then
      found := found ++ [(Text.ofString name, Text.ofString value)]
  return found

/-- The parser of the records that the environment names; without any it has no answers. -/
def readParser : IO Parser := do
  match ← IO.getEnv "PHRASEBOOK_TREES" with
  | none => return fun _ _ => none
  | some file =>
    match Json.read (Text.ofString (← IO.FS.readFile file)) with
    | .ok records => return Record.parser records
    | .error fault => throw (IO.userError (stringOf fault.message))

def changedFiles (before after : Store) : List (List Text × Bytes) :=
  after.items.filterMap fun (names, item) =>
    match item with
    | .file content => if before.entry? names = some item then none else some (names, content)
    | _ => none

def writeOut (names : List Text) (content : Bytes) : IO Unit := do
  let path : FilePath := ⟨1, names⟩
  IO.FS.createDirAll (stringOf path.parent.toText)
  IO.FS.writeBinFile (stringOf path.toText) (ByteArray.mk content.toArray)

def perform (command : Parser → FilePath → List Text → Session Int) (arguments : List String) :
    IO UInt32 := do
  let folder ← IO.currentDir
  let items ← (← folder.readDir).toList.mapM collect
  let current := FilePath.parse (Text.ofString folder.toString)
  let store : Store := ⟨(current.names, .folder) :: items.flatten⟩
  let level := (← IO.getEnv (stringOf logLevelVariable)).map Text.ofString
  let world : World :=
    { store, environment := ← readEnvironment, rank := rankInForce level Level.warning.rank }
  let session := command (← readParser) current (arguments.map Text.ofString)
  let (result, after) := session.run.run world
  for (names, content) in changedFiles store after.store do writeOut names content
  IO.print (stringOf after.out)
  for line in logLines after.rank after.entries do IO.eprintln (stringOf line)
  IO.eprint (stringOf after.err)
  match result with
  | .ok status => return UInt32.ofNat status.toNat
  | .error fault =>
    IO.eprintln (stringOf fault.message)
    return 1

end Phrasebook.Main

def main (arguments : List String) : IO UInt32 :=
  match arguments with
  | "wrapper" :: rest => Main.perform Command.Wrap.run rest
  | "extractor" :: rest => Main.perform Command.Extract.run rest
  | _ => do
    IO.eprintln "usage: phrasebook (wrapper | extractor) [options]"
    return 2
