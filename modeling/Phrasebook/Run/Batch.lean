import Phrasebook.Diff.Unified
import Phrasebook.Files.Digest
import Phrasebook.Run.Session
import Phrasebook.Wrap.Module

/-!
Wrapping the literals of all files of a project. A fault in one file is logged, and the run goes on
with the next.
-/

namespace Phrasebook.Batch

/-- What came of one file: whether it changed, and the diff if one was asked for. -/
structure FileResult where
  changed : Bool
  diff : Option Text

structure Result where
  processed : List Text := []
  failed : List Text := []
  timings : List (Text × Number) := []
  diffs : List Text := []

def unchanged : FileResult := ⟨false, none⟩

/-- A new text written in place of a file's former one, which is kept beside it if need be. -/
def writeBack (settings : Settings) (path : FilePath) (former new : Text) : Session Unit := do
  let write : Session Unit := do
    if settings.backup then
      Session.writeFile (← backupPath path former) former
    Session.writeFile path new
  match ← Session.attempt write with
  | .ok () => return ()
  | .error (.system fault) => throw (.write path.toText fault.message)
  | .error fault => throw fault

def sizeOf (store : Store) (path : FilePath) : Except Fault Nat :=
  match store.find path with
  | .ok (.file content) => .ok content.length
  | .ok _ => .ok 0
  | .error o => .error (o.fault path)

def exceededLimit? (settings : Settings) (store : Store) (path : FilePath) :
    Except Fault (Option Int) := do
  if !settings.maxFileSize.isSet then return none
  let size ← sizeOf store path
  match settings.maxFileSize.number? with
  | none => throw .wrongType
  | some limit => return if limit.lt (.whole size) then limit.truncate? else none

def transformTimed (parser : Parser) (settings : Settings) (code : Text) (path : Text) :
    Session Transformed := do
  let file : List (Text × Json) := [("file", .str path)]
  let tree ← Session.measure "parse" file (fun _ => [])
    (Session.ofLogged (parseLogged parser settings.backend code (some path)))
  Session.measure "transform" file (fun r => [("modified", .bool r.modified)])
    (Session.ofLogged (transform settings tree))

def processFile (parser : Parser) (settings : Settings) (base path : FilePath) :
    Session FileResult := do
  let store := (← get).store
  let isLink ← store.isLink path
  if isLink then
    Session.say .warning ("Skipping symlink: " ++ path.toText)
    return unchanged
  if let some limit ← exceededLimit? settings store path then
    Session.say .warning
      ("Skipping large file (> " ++ Text.ofInt limit ++ " bytes): " ++ path.toText)
    return unchanged
  let code ← Utf8.decodeFault (← Session.readFile path)
  let result ← transformTimed parser settings code path.toText
  if !result.modified || result.code == code then return unchanged
  let shown := (FilePath.parse (path.relativeTo base)).toText
  let diff := if settings.emitDiff then some (Diff.unified code result.code shown) else none
  if settings.dryRun then return ⟨true, diff⟩
  Session.measure "write" [("file", .str path.toText)] (fun _ => [])
    (writeBack settings path code result.code)
  return ⟨true, diff⟩

def processAll (parser : Parser) (settings : Settings) (base : FilePath) :
    List FilePath → Result → Session Result
  | [], result => return result
  | path :: rest, result => do
    let shown := path.relativeTo base
    let result := { result with timings := result.timings ++ [(shown, Number.double 0)] }
    match ← Session.attempt (processFile parser settings base path) with
    | .error fault =>
      if fault.isContained then
        Session.say .error ("Error processing " ++ shown ++ ": " ++ fault.message)
        processAll parser settings base rest { result with failed := result.failed ++ [shown] }
      else throw fault
    | .ok r =>
      if r.changed then
        Session.print ((if settings.dryRun then "Would be modified: " else "Modified: ") ++ shown)
      let processed := if r.changed then result.processed ++ [shown] else result.processed
      let diffs := match r.diff with
        | some (c :: more) => result.diffs ++ [c :: more]
        | _ => result.diffs
      processAll parser settings base rest { result with processed, diffs }

def run (parser : Parser) (settings : Settings) (base : FilePath) : Session Result := do
  let files ← Session.discover base settings.sourcePattern settings.ignoreGlobs
  let pattern := textOf settings.sourcePattern
  if files.isEmpty then
    Session.say .warning ("No files found matching pattern: " ++ pattern)
  Session.say .info ("Found " ++ Text.ofNat files.length ++ " files matching " ++ pattern)
  let result ← processAll parser settings base files {}
  Session.flushMonitor
  return result

def Result.summary (r : Result) : Except Fault Text :=
  Timing.summary (.double 0) r.timings (Text.ofNat r.processed.length) (some 3)

end Phrasebook.Batch
