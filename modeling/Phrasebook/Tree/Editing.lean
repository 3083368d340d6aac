import Phrasebook.Tree.Arena

/-!
Edits of an arena. Each one changes the children of one node, moves the nodes it is about, and
marks that node and its ancestors dirty.
-/

namespace Phrasebook

abbrev Editing := ExceptT Fault (StateM Arena)

namespace Editing

def cell (id : NodeId) : Editing Cell := do return (← get).cell id

def update (id : NodeId) (f : Cell → Cell) : Editing Unit := modify fun a => a.update id f

def add (c : Cell) : Editing NodeId := do
  let a ← get
  set { a with cells := a.cells.push c }
  return a.cells.size

def nodesIn (parts : List Part) : List NodeId :=
  parts.filterMap fun
    | .node id => some id
    | .text _ => none

def build (kind : Text) (parts : List Part) : Editing NodeId := do
  let children := nodesIn parts
  let id ← add { kind, parts := some parts, children }
  for child in children do update child fun c => { c with parent := some id }
  return id

def builtKind : Text := "synthetic"

def markDirty (id : NodeId) : Editing Unit := do
  for above in id :: (← get).ancestors id do update above fun c => { c with dirty := true }

def inherit (new old : NodeId) : Editing Unit := do
  let c ← cell old
  update new fun n =>
    if n.start.isNone then { n with start := c.start, stop := c.stop } else n

def setAt {α : Type} (xs : List α) (index : Int) (x : α) : Except Fault (List α) :=
  let k := if index < 0 then index + xs.length else index
  if 0 ≤ k ∧ k < xs.length then .ok (xs.set k.toNat x) else .error .emptyList

def putInPlace (parent old new : NodeId) : Editing Unit := do
  let children ← setAt (← cell parent).children ((← get).indexOf old) new
  let exchange (p : Part) : Part := match p with
    | .node id => .node (if id = old then new else id)
    | p => p
  update parent fun c => { c with children, parts := c.parts.map (·.map exchange) }
  let field := (← cell old).field
  update new fun c => { c with parent := some parent, field }
  inherit new old

def replaceWith (old new : NodeId) : Editing NodeId := do
  match (← cell old).parent with
  | none => throw .replaceDetached
  | some parent =>
    putInPlace parent old new
    update old fun c => { c with parent := none }
    markDirty parent
    return new

def wrap (old : NodeId) (kind : Text) (before after : List Part) : Editing NodeId := do
  match (← cell old).parent with
  | none => throw .wrapDetached
  | some parent =>
    let new ← add { kind, parts := some (before ++ .node old :: after), children := [old] }
    putInPlace parent old new
    update old fun c => { c with parent := some new }
    markDirty parent
    return new

/-- The bounds of a slice of a list: negative ones count from the end, and all stay within the
list. -/
def sliceBounds (count : Nat) (start stop : Int) : Nat × Nat :=
  let clamp (i : Int) : Nat := if i < 0 then (i + count).toNat else min i.toNat count
  (clamp start, max (clamp start) (clamp stop))

def slice {α : Type} (xs : List α) (start stop : Int) : List α :=
  let (i, j) := sliceBounds xs.length start stop
  (xs.take j).drop i

def replaceSlice {α : Type} (xs : List α) (start stop : Int) (x : α) : List α :=
  let (i, j) := sliceBounds xs.length start stop
  xs.take i ++ x :: xs.drop j

def replaceRun (parent : NodeId) (run : List NodeId) (new : NodeId) : Editing NodeId := do
  match run.head?, run.getLast? with
  | some first, some last =>
    let k := (← get).indexOf first
    update parent fun c => { c with children := replaceSlice c.children k (k + run.length) new }
    let field := (← cell first).field
    update new fun c => { c with parent := some parent, field }
    inherit new first
    let stop := (← cell last).stop
    update new fun c => { c with stop }
    for id in run do update id fun c => { c with parent := none }
    markDirty parent
    return new
  | _, _ => throw .emptyList

/-- A node put among the children of another one; a negative position counts from the end, and one
out of range is the nearest end. -/
def insertChild (parent : NodeId) (index : Int) (new : NodeId) : Editing NodeId := do
  update new fun c => { c with parent := some parent }
  update parent fun c => { c with children := replaceSlice c.children index index new }
  markDirty parent
  return new

def insertAfter (anchor new : NodeId) : Editing NodeId := do
  match (← cell anchor).parent with
  | none => throw .noParent
  | some parent => insertChild parent ((← get).indexOf anchor + 1) new

/-- What a visitor decides about a node: keep it, leave everything below it alone, or go on with
another node, which takes the place of the first if it has no place yet. -/
inductive Verdict
  | keep
  | skip
  | replace (new : NodeId)

variable {γ : Type}

/-- A visitor sees a node and a context, and gives its verdict and the context for the children. -/
abbrev Visitor (γ : Type) := NodeId → γ → Editing (Verdict × γ)

/-- The nodes still to be visited are visited one after the other, each before its children. Those
that were cut off in the meantime are passed over. The visits are bounded by `fuel`. -/
def walkFrom (visit : Visitor γ) (root : NodeId) :
    Nat → List (NodeId × γ) → List (Text × γ) → Editing (List (Text × γ))
  | 0, _, visits => return visits
  | _, [], visits => return visits
  | fuel + 1, (id, context) :: rest, visits => do
    let c ← cell id
    if id != root && c.parent.isNone then walkFrom visit root fuel rest visits
    else
      let visits := visits ++ [(c.kind, context)]
      let (verdict, below) ← visit id context
      let entered : Option NodeId ← match verdict with
        | .skip => pure none
        | .keep => pure (some id)
        | .replace new => do
          if new != id && (← cell new).parent.isNone then let _ ← replaceWith id new
          pure (some new)
      match entered with
      | none => walkFrom visit root fuel rest visits
      | some entered =>
        let children := (← cell entered).children
        walkFrom visit root fuel (children.map (·, below) ++ rest) visits

def visitLimit : Nat := 100000

def walk (visit : Visitor γ) (root : NodeId) (context : γ) : Editing (List (Text × γ)) :=
  walkFrom visit root visitLimit [(root, context)] []

end Editing
end Phrasebook
