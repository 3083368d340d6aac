import Phrasebook.Fault
import Phrasebook.Tree.Node

/-!
Edits. Each one changes the items of one node and marks that node and its ancestors dirty.
-/

namespace Phrasebook.Node

def updateChild (f : Node → Option Node) : Nat → List Node → Option (List Node)
  | _, [] => none
  | k, n :: rest =>
    if n.isChild then
      match k with
      | 0 => (f n).map (· :: rest)
      | k + 1 => (updateChild f k rest).map (n :: ·)
    else (updateChild f k rest).map (n :: ·)

/-- The node with new items at the end of a path, and every node on the way marked dirty. -/
def editAt (f : Info → List Node → Option (List Node)) : Path → Node → Option Node
  | _, text _ => none
  | [], branch i items => (f i items).map (branch { i with dirty := true })
  | k :: path, branch i items =>
    (updateChild (editAt f path) k items).map (branch { i with dirty := true })

def at? : Path → Node → Option Node
  | [], n => some n
  | k :: path, n => (n.children[k]?).bind (at? path)

/-- A node that takes the place of another: its field, its standing, and its span if need be. -/
def inPlaceOf (new old : Node) : Node :=
  new.mapInfo fun i => { i.inherit old.info with
    field := old.info.field, standing := old.info.standing }

def splitPath (path : Path) : Option (Path × Nat) := path.getLast?.map fun k => (path.dropLast, k)

def replaceAt (root : Node) (path : Path) (new : Node) : Except Fault Node :=
  match splitPath path with
  | none => .error .replaceDetached
  | some (parent, k) =>
    match root.editAt (fun _ => updateChild (fun old => some (new.inPlaceOf old)) k) parent with
    | some root => .ok root
    | none => .error .replaceDetached

def surround (kind : String) (before after : List Node) (n : Node) : Node :=
  let aside := mapInfo fun i => { i with standing := .printedOnly }
  branch { kind, built := true }
    (before.map aside ++ n.mapInfo (fun i => { i with standing := .full }) :: after.map aside)

def wrapAt (root : Node) (path : Path) (kind : String) (before after : List Node) :
    Except Fault Node :=
  match splitPath path with
  | none => .error .wrapDetached
  | some (parent, k) =>
    let wrap (old : Node) := some ((surround kind before after old).inPlaceOf old)
    match root.editAt (fun _ => updateChild wrap k) parent with
    | some root => .ok root
    | none => .error .wrapDetached

def insertItem (new : Node) : Nat → List Node → List Node
  | _, [] => [new]
  | k, n :: rest =>
    if n.isChild then
      match k with
      | 0 => new :: n :: rest
      | k + 1 => n :: insertItem new k rest
    else n :: insertItem new k rest

/-- The standing of a node put among the children of another without becoming one of its printed
parts. -/
def sideStanding (parent : Info) : Standing := if parent.built then .reachedOnly else .full

/-- A position among `count` children: a negative one counts from the end, and one out of range is
the nearest end. -/
def clampIndex (index : Int) (count : Nat) : Nat :=
  if index < 0 then (index + count).toNat else min index.toNat count

def insertAt (root : Node) (path : Path) (index : Int) (new : Node) : Option Node :=
  root.editAt (fun i items =>
    let k := clampIndex index (items.countP isChild)
    some (insertItem (new.mapInfo fun n => { n with standing := sideStanding i }) k items)) path

/-- The items without `count` children from the `k`-th on. Of these a built parent keeps what it
prints, out of reach. -/
def dropRun (parentBuilt : Bool) : Nat → Nat → List Node → List Node
  | _, _, [] => []
  | k, count, n :: rest =>
    if n.isChild then
      match k, count with
      | k + 1, count => n :: dropRun parentBuilt k count rest
      | 0, count + 1 =>
        if parentBuilt && n.isPrinted then
          n.mapInfo (fun i => { i with standing := .printedOnly }) ::
            dropRun parentBuilt 0 count rest
        else dropRun parentBuilt 0 count rest
      | 0, 0 => n :: rest
    else n :: dropRun parentBuilt k count rest

/-- The node that takes the place of a run: field and start of the first, end of the last. -/
def inPlaceOfRun (new first last : Node) (standing : Standing) : Node :=
  new.mapInfo fun i => { i.inherit first.info with
    field := first.info.field, stop := last.info.stop, standing }

/-- The tree with the children of the node at `path` from the `k`-th on, `count` of them, replaced
by one node that spans them. -/
def replaceRunAt (root : Node) (path : Path) (k count : Nat) (new : Node) : Except Fault Node :=
  let run (n : Node) := (n.children.drop k).take count
  match (root.at? path).map run with
  | some (first :: more) =>
    let last := (first :: more).getLastD first
    let edit (i : Info) (items : List Node) : Option (List Node) :=
      let placed := new.inPlaceOfRun first last (sideStanding i)
      some (insertItem placed k (dropRun i.built k (more.length + 1) items))
    match root.editAt edit path with
    | some root => .ok root
    | none => .error .emptyList
  | _ => .error .emptyList

end Phrasebook.Node
