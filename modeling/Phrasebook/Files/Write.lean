import Phrasebook.Files.Lookup

/-!
Changing a file system: folders made with those above them, and texts written all at once.
-/

namespace Phrasebook.Store

def makeFolder (s : Store) (p : FilePath) : Except Fault Store := do
  (spellingOf p).mapError (Obstacle.fault p)
  if p.names.isEmpty then throw (.system (.exists p.toText))
  let above ← (s.walk true linkLimit [] p.names.dropLast).mapError (Obstacle.fault p)
  if s.item? above != some .folder then throw (.system (.notDirectory p.toText))
  if p.name = ".." then throw (.system (.exists p.toText))
  if isLongName p.name then throw (.system (.nameTooLong p.toText))
  if (s.item? (above ++ [p.name])).isSome then throw (.system (.exists p.toText))
  return s.put (above ++ [p.name]) .folder

def settleFolder (s : Store) (p : FilePath) (fault : Fault) : Except Fault Unit :=
  match fault with
  | .system _ => do
    if ← s.isFolder p then return () else throw fault
  | fault => .error fault

/-- The store with a folder at a path, whose names are given last first, and with the folders
above it. Folders made before a fault stay. -/
def makeFoldersFrom (root : Nat) (s : Store) : List Text → Store × Except Fault Unit
  | [] => (s, s.settleFolder ⟨root, []⟩ (.system (.exists (FilePath.toText ⟨root, []⟩))))
  | n :: above =>
    let p : FilePath := ⟨root, (n :: above).reverse⟩
    match s.makeFolder p with
    | .ok made => (made, .ok ())
    | .error (.system (.missing _)) =>
      match makeFoldersFrom root s above with
      | (s, .error fault) => (s, .error fault)
      | (s, .ok ()) =>
        match s.makeFolder p with
        | .ok made => (made, .ok ())
        | .error fault => (s, s.settleFolder p fault)
    | .error fault => (s, s.settleFolder p fault)

def makeFolders (s : Store) (p : FilePath) : Store × Except Fault Unit :=
  s.makeFoldersFrom p.root p.names.reverse

/-- The steps of writing a file that the system may refuse. -/
inductive WriteStep
  | create
  | write
  | sync
  | replace
deriving DecidableEq

abbrev Refusals := FilePath → WriteStep → Option SystemFault

def isTooLong (p : FilePath) : Bool :=
  isLongName p.name || match spellingOf p with
    | .error o => o == .nameTooLong
    | .ok () => false

/-- Whether a last name is none of its own: there is none, or it stands for a folder by dots. -/
def isDots (n : Text) : Bool := n.isEmpty || n == "." || n == ".."

def replaceFault? (s : Store) (p : FilePath) (target : List Text) : Option SystemFault :=
  if isTooLong p then some (.nameTooLong p.toText)
  else if isDots p.name then some (.busy p.toText)
  else if s.item? target = some .folder then some (.isDirectory p.toText)
  else none

def refuse : Option SystemFault → Except Fault Unit
  | some fault => .error (.system fault)
  | none => .ok ()

/-- A store, and the names of a new file in it that is to be removed in the end. -/
structure Draft where
  store : Store
  temporary : Option (List Text)

def Draft.cleanUp (d : Draft) : Store :=
  match d.temporary with
  | some names => if (d.store.item? names).isSome then d.store.erase names else d.store
  | none => d.store

def bracket (s : Store) (steps : ExceptT Fault (StateM Draft) Unit) : Store × Except Fault Unit :=
  let (result, draft) := steps.run.run ⟨s, none⟩
  (draft.cleanUp, result)

def takePlace (refusals : Refusals) (p : FilePath) (temporary target : List Text) (bytes : Bytes) :
    ExceptT Fault (StateM Draft) Unit := do
  refuse (refusals p .replace)
  refuse ((← get).store.replaceFault? p target)
  modify fun d => ⟨(d.store.erase temporary).put target (.file bytes), none⟩

/-- A text goes into a new file in a folder, and this takes the place of what is at the path. -/
def fillAndReplace (refusals : Refusals) (p : FilePath) (folder : List Text) (t : Text) :
    ExceptT Fault (StateM Draft) Unit := do
  refuse (refusals p .create)
  let temporary := folder ++ [(← get).store.freshName]
  modify fun d => ⟨d.store.put temporary (.file []), some temporary⟩
  let bytes ← Utf8.encode t
  modify fun d => { d with store := d.store.put temporary (.file bytes) }
  refuse (refusals p .write)
  refuse (refusals p .sync)
  takePlace refusals p temporary (folder ++ [p.name]) bytes

/-- A text put at a path by way of a new file in the folder there, which then takes the path's
place. When a step fails the new file is removed again. -/
def replaceFile (refusals : Refusals) (s : Store) (p : FilePath) (folder : List Text) (t : Text) :
    Store × Except Fault Unit :=
  s.bracket (fillAndReplace refusals p folder t)

def atomicWrite (refusals : Refusals) (s : Store) (p : FilePath) (t : Text) :
    Store × Except Fault Unit :=
  match s.makeFolders p.parent with
  | (s, .error fault) => (s, .error fault)
  | (s, .ok ()) =>
    match checkSpelling p, s.locate true p.parent with
    | .error fault, _ => (s, .error fault)
    | .ok (), .error o => (s, .error (o.fault p))
    | .ok (), .ok folder => s.replaceFile refusals p folder t

end Phrasebook.Store
