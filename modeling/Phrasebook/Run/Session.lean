import Phrasebook.Files.Discover
import Phrasebook.Files.Write
import Phrasebook.Settings.Resolve
import Phrasebook.Timing.Monitor

/-!
A session: what a run reads and changes. Everything that happened before a fault stays: files
written, lines printed, entries logged, spans timed.
-/

namespace Phrasebook

structure World where
  store : Store
  environment : Environment := []
  refusals : Store.Refusals := fun _ _ => none
  out : Text := []
  err : Text := []
  entries : List Entry := []
  rank : Int := 30
  monitor : Timing.Monitor := { enabled := false, verbose := false }

abbrev Session := ExceptT Fault (StateM World)

namespace Session

variable {α : Type}

def print (line : Text) : Session Unit := modify fun w => { w with out := w.out ++ line ++ "\n" }

def printRaw (t : Text) : Session Unit := modify fun w => { w with out := w.out ++ t }

def printError (line : Text) : Session Unit :=
  modify fun w => { w with err := w.err ++ line ++ "\n" }

def say (level : Level) (text : Text) : Session Unit :=
  modify fun w => { w with entries := w.entries ++ [⟨level, text⟩] }

def ofLogged (x : Logged α) : Session α := do
  modify fun w => { w with entries := w.entries ++ x.entries }
  match x.result with
  | .ok a => return a
  | .error fault => throw fault

def attempt (x : Session α) : Session (Except Fault α) := ExceptT.lift (ExceptT.run x)

/-- A computation timed under a name. What `extra` says of its result is recorded with it. -/
def measure (name : Text) (metadata : List (Text × Json)) (extra : α → List (Text × Json))
    (body : Session α) : Session α := do
  let (monitor, span) := (← get).monitor.start 0 (.str name) metadata
  modify fun w => { w with monitor }
  let result ← attempt body
  let more := match result with
    | .ok a => extra a
    | .error _ => []
  let (monitor, _, entries) := (← get).monitor.finish 0 span more
  modify fun w => { w with monitor, entries := w.entries ++ entries }
  match result with
  | .ok a => return a
  | .error fault => throw fault

def flushMonitor : Session Unit := modify fun w =>
  let (monitor, entries) := w.monitor.flush
  { w with monitor, entries := w.entries ++ entries }

def readFile (p : FilePath) : Session Bytes := do
  match (← get).store.read p with
  | .ok bytes => return bytes
  | .error fault => throw fault

def writeFile (p : FilePath) (t : Text) : Session Unit := do
  let w ← get
  let (store, result) := w.store.atomicWrite w.refusals p t
  set { w with store }
  match result with
  | .ok () => return ()
  | .error fault => throw fault

def makeFolders (p : FilePath) : Session Unit := do
  let w ← get
  let (store, result) := w.store.makeFolders p
  set { w with store }
  match result with
  | .ok () => return ()
  | .error fault => throw fault

def patternOf (v : Json) : Session Text :=
  match v with
  | .str t => return t
  | _ => throw .wrongType

def discover (base : FilePath) (pattern : Json) (ignore : List Json) : Session (List FilePath) := do
  let p ← patternOf pattern
  Discover.files (← get).store base p ignore

end Session
end Phrasebook
