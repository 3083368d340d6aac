import Phrasebook.Tree.Edit

/-!
A node together with everything around it. A focus answers what stands before, after and above a
node, on a tree as parsed and on one that is being edited alike.
-/

namespace Phrasebook

structure Frame where
  info : Info
  before : List Node
  after : List Node

/-- A node and the frames around it, innermost first. -/
structure Focus where
  node : Node
  frames : List Frame

def Frame.close (f : Frame) (n : Node) : Node := .branch f.info (f.before.reverse ++ n :: f.after)

namespace Focus

def ofRoot (root : Node) : Focus := ⟨root, []⟩

def up? (f : Focus) : Option Focus :=
  match f.frames with
  | [] => none
  | frame :: frames => some ⟨frame.close f.node, frames⟩

def parentKind? (f : Focus) : Option String := f.frames.head?.map (·.info.kind)

def ancestorKinds (f : Focus) : List String := f.frames.map (·.info.kind)

def siblingsBefore (f : Focus) : List Node :=
  match f.frames with
  | [] => []
  | frame :: _ => frame.before.filter Node.isChild

def siblingsAfter (f : Focus) : List Node :=
  match f.frames with
  | [] => []
  | frame :: _ => frame.after.filter Node.isChild

def index? (f : Focus) : Option Nat :=
  if f.frames.isEmpty then none else some f.siblingsBefore.length

def ofItems (info : Info) (frames : List Frame) (before : List Node) : List Node → List Focus
  | [] => []
  | n :: rest =>
    let others := ofItems info frames (n :: before) rest
    if n.isChild then ⟨n, ⟨info, before, rest⟩ :: frames⟩ :: others else others

def children (f : Focus) : List Focus := ofItems f.node.info f.frames [] f.node.items

def childByField? (f : Focus) (name : String) : Option Focus :=
  f.children.find? fun c => c.node.field == some name

def at? : Path → Focus → Option Focus
  | [], f => some f
  | k :: path, f => (f.children[k]?).bind (at? path)

end Focus

mutual

def Node.foci (frames : List Frame) : Node → List Focus
  | .text _ => []
  | .branch i items => ⟨.branch i items, frames⟩ :: Node.fociItems frames i [] items

def Node.fociItems (frames : List Frame) (info : Info) (before : List Node) :
    List Node → List Focus
  | [] => []
  | n :: rest =>
    let others := Node.fociItems frames info (n :: before) rest
    if n.isChild then Node.foci (⟨info, before, rest⟩ :: frames) n ++ others else others

end

mutual

def Node.pathsTo (p : Node → Bool) (here : Path) : Node → List Path
  | .text _ => []
  | .branch i items =>
    let below := Node.pathsToItems p here 0 items
    if p (.branch i items) then here :: below else below

def Node.pathsToItems (p : Node → Bool) (here : Path) (k : Nat) : List Node → List Path
  | [] => []
  | n :: rest =>
    if n.isChild then
      Node.pathsTo p (here ++ [k]) n ++ Node.pathsToItems p here (k + 1) rest
    else Node.pathsToItems p here k rest

end

end Phrasebook
