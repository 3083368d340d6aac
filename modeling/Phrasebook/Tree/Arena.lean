import Phrasebook.Tree.Render

/-!
Trees whose nodes have an identity. A node is known by its number, knows its parent, and can be
moved, shared or cut off by edits that refer to nodes at will. What an edit changed before a fault
stays changed.
-/

namespace Phrasebook

abbrev NodeId := Nat

inductive Part
  | text (t : Text)
  | node (id : NodeId)

/-- One node: what is known of it, its children, its parent, and its parts if it was built. -/
structure Cell where
  kind : Text
  named : Bool := true
  field : Option Text := none
  start : Option Mark := none
  stop : Option Nat := none
  dirty : Bool := false
  children : List NodeId := []
  parent : Option NodeId := none
  parts : Option (List Part) := none

instance : Inhabited Cell := ⟨{ kind := [] }⟩

def Cell.label (c : Cell) : Text :=
  match c.start with
  | none => "<Node " ++ c.kind ++ " (inserted)>"
  | some m =>
    let stop : Text := match c.stop with
      | some b => Text.ofNat b
      | none => "None"
    "<Node " ++ c.kind ++ " " ++ Text.ofNat m.offset ++ ":" ++ stop ++ ">"

/-- Nodes over one source, the first of which is the root. -/
structure Arena where
  source : Bytes
  cells : Array Cell

namespace Arena

def root : NodeId := 0

def cell (a : Arena) (id : NodeId) : Cell := a.cells.getD id default

def update (a : Arena) (id : NodeId) (f : Cell → Cell) : Arena :=
  { a with cells := a.cells.modify id f }

mutual

def addNode (a : Arena) (parent : Option NodeId) : Node → Arena
  | .text _ => a
  | .branch i items =>
    let id := a.cells.size
    let cell : Cell :=
      { kind := i.kind, named := i.named, field := i.field.map Text.ofString, start := i.start
        stop := i.stop, dirty := i.dirty, parent }
    let a := match parent with
      | some p => a.update p fun c => { c with children := c.children ++ [id] }
      | none => a
    addNodes { a with cells := a.cells.push cell } id items

def addNodes (a : Arena) (parent : NodeId) : List Node → Arena
  | [] => a
  | n :: rest => addNodes (addNode a (some parent) n) parent rest

end

def ofTree (t : Tree) : Arena := addNode ⟨t.source, #[]⟩ none t.root

def index? (a : Arena) (id : NodeId) : Option Nat :=
  (a.cell id).parent.bind fun p => (a.cell p).children.findIdx? (· == id)

def indexOf (a : Arena) (id : NodeId) : Int :=
  match a.index? id with
  | some k => k
  | none => -1

def before? (a : Arena) (id : NodeId) : Option NodeId :=
  match (a.cell id).parent, a.index? id with
  | some p, some (k + 1) => (a.cell p).children[k]?
  | _, _ => none

def after? (a : Arena) (id : NodeId) : Option NodeId :=
  match (a.cell id).parent, a.index? id with
  | some p, some k => (a.cell p).children[k + 1]?
  | _, _ => none

def ancestorsFrom (a : Arena) : Nat → Option NodeId → List NodeId
  | fuel + 1, some id => id :: ancestorsFrom a fuel (a.cell id).parent
  | _, _ => []

def ancestors (a : Arena) (id : NodeId) : List NodeId :=
  a.ancestorsFrom a.cells.size (a.cell id).parent

def descendants (a : Arena) : Nat → List NodeId → List NodeId
  | 0, _ => []
  | fuel + 1, ids => ids.flatMap fun id => id :: descendants a fuel (a.cell id).children

def preorder (a : Arena) (id : NodeId) : List NodeId := a.descendants a.cells.size [id]

def itemAt {α : Type} (xs : List α) (index : Int) : Except Fault α :=
  let k := if index < 0 then index + xs.length else index
  match if k < 0 then none else xs[k.toNat]? with
  | some x => .ok x
  | none => .error .emptyList

def reach (a : Arena) : NodeId → List Int → Except Fault NodeId
  | id, [] => .ok id
  | id, k :: path => do a.reach (← itemAt (a.cell id).children k) path

def renderParts (render : NodeId → Except Fault Bytes) : List Part → Except Fault Bytes
  | [] => .ok []
  | .text t :: rest => do
    let bytes ← Utf8.encode t
    return bytes ++ (← renderParts render rest)
  | .node id :: rest => do
    let bytes ← render id
    return bytes ++ (← renderParts render rest)

def renderSpliced (a : Arena) (render : NodeId → Except Fault Bytes) (cursor stop : Option Nat) :
    List NodeId → Except Fault Bytes
  | [] => .ok (a.source.slice cursor stop)
  | id :: rest =>
    let c := a.cell id
    match c.start with
    | some m => do
      let bytes ← render id
      let more ← renderSpliced a render c.stop stop rest
      return a.source.slice cursor (some m.offset) ++ (bytes ++ more)
    | none => do
      let bytes ← render id
      return bytes ++ (← renderSpliced a render cursor stop rest)

def render (a : Arena) : Nat → NodeId → Except Fault Bytes
  | 0, _ => .error .endless
  | fuel + 1, id =>
    let c := a.cell id
    match c.parts with
    | some parts => renderParts (a.render fuel) parts
    | none =>
      if c.dirty then
        a.renderSpliced (a.render fuel) (c.start.map (·.offset)) c.stop c.children
      else match c.start with
        | some m => .ok (a.source.slice (some m.offset) c.stop)
        | none => .ok []

def text (a : Arena) (id : NodeId) : Except Fault Text := do
  Utf8.decodeFault (← a.render (a.cells.size + 1) id)

def isModified (a : Arena) : Bool := (a.cell root).dirty

/-- The whole file as text: the source while nothing was edited, else the printed root between the
parts of the source that it does not cover. -/
def print (a : Arena) : Except Fault Text :=
  if a.isModified then do
    let c := a.cell root
    let head ← Utf8.decodeFault (a.source.slice none (c.start.map (·.offset)))
    let middle ← a.text root
    let tail ← Utf8.decodeFault (a.source.slice c.stop none)
    return head ++ middle ++ tail
  else Utf8.decodeFault a.source

end Arena
end Phrasebook
