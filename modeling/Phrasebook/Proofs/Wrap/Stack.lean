import Phrasebook.Proofs.Wrap.Visit

/-! The walk as a loop with a stack. The loop takes a node from the stack, looks at it, and puts the nodes
below it, or below what takes its place, on the stack. The stack is kept here in stages, one for each node
that the loop is inside of, which also hold what is left of the node so far.

`Editing.walkFrom` is this loop for any visitor, over cells that know their parents, and it passes over a
node of the stack whose cell has no parent any more. Of the visits here one alone cuts off nodes that are on
the stack, the one that replaces a run of JSX text: all nodes of the run but the one visited, which are next
on the stack. Nothing that is visited before them gives them a parent again. So a stage keeps them apart, as
`detached`, in front of the nodes that are `pending`, and `Walker.step` passes over them one by one. -/

namespace Phrasebook

namespace Focus

/-- The focus and those on all nodes below it, each before its children. -/
def preorder (f : Focus) : List Focus := f.node.foci f.frames

/-- The foci on all nodes below. -/
def inner (f : Focus) : List Focus := Node.fociItems f.frames f.node.info [] f.node.items

end Focus

namespace Pass

structure Context where
  name : Text
  function : Focus

/-- What stands on the stack: a node as parsed, where it stands there, or one that the walk put in. -/
inductive Item where
  | parsed (f : Focus)
  | made (n : Node)

namespace Item

def node : Item → Node
  | parsed f => f.node
  | made n => n

@[simp] theorem node_parsed (f : Focus) : (parsed f).node = f.node := rfl

@[simp] theorem node_made (n : Node) : (made n).node = n := rfl

def parsed? : Item → Option Focus
  | parsed f => some f
  | made _ => none

/-- Where the node stands, as parsed if it was parsed. -/
def place (frames : List Frame) : Item → Focus
  | parsed f => f
  | made n => ⟨n, frames⟩

def below : Item → List Item
  | parsed f => f.children.map parsed
  | made n => n.items.map made

def kept (source : Bytes) : Item → List (Text × Item)
  | parsed f => (keptFoci source f).map fun p => (p.1, parsed p.2)
  | made n => (keptExpressions source n.items).map fun p => (p.1, made p.2)

end Item

inductive Finish where
  | entered
  | component (name : Text) (serverBound : Bool)
  | replaced
  | template (key : Text) (names : List Text) (n : Node)

def Finish.apply (env : Env) (parent : Info) (below : Made (List Node)) : Finish → Made Node
  | entered => reassemble parent below
  | component name serverBound =>
    { reassemble parent below with
      components := { name, path := [], serverBound, modified := below.touched } :: below.components
      touched := false }
  | replaced => { reassemble parent below with touched := true, changed := true }
  | template key names n => ofTemplate env key n names below

structure Stage where
  parent : Info
  frames : List Frame
  context : Option Context
  finish : Finish
  before : List Node := []
  count : Nat := 0
  components : List Component := []
  touched : Bool := false
  changed : Bool := false
  /-- Nodes of a run that was replaced, which are still on the stack. -/
  detached : List Item := []
  pending : List Item

namespace Stage

def into (item : Item) (frames : List Frame) (context : Option Context) (finish : Finish) : Stage :=
  { parent := item.node.info, frames, context, finish, pending := item.below }

def inPlace (new : Node) (frames : List Frame) (context : Option Context) : Stage :=
  into (.made new) frames context .replaced

/-- The stage of a call that took the place of a template: of the nodes below the template, the kept
expressions are below the call. -/
def ofTemplate (env : Env) (key : Text) (item : Item) (frames : List Frame) (context : Option Context) :
    Stage :=
  let kept := keptExpressions env.source item.node.items
  { parent := (templateCall env key kept item.node).info, frames, context
    finish := .template key (kept.map (·.1)) item.node
    pending := (item.kept env.source).map (·.2) }

def frame (s : Stage) (rest : List Item) : Frame := ⟨s.parent, s.before, rest.map Item.node⟩

theorem siblingsBefore_frame (s : Stage) (rest : List Item) (n : Node) :
    (Focus.mk n (s.frame rest :: s.frames)).siblingsBefore = s.before.filter Node.isChild := rfl

theorem siblingsAfter_frame (s : Stage) (rest : List Item) (n : Node) :
    (Focus.mk n (s.frame rest :: s.frames)).siblingsAfter = (rest.map Item.node).filter Node.isChild := rfl

/-- The stage with a node done. -/
def take (s : Stage) (m : Made Node) : Stage :=
  { s with
    before := m.part :: s.before
    count := s.count + 1
    components := s.components ++ m.components.map (·.below s.count)
    touched := s.touched || m.touched
    changed := s.changed || m.changed }

def join (s : Stage) (rest : Made (List Node)) : Made (List Node) :=
  ⟨s.before.reverse ++ rest.part, s.components ++ rest.components, s.touched || rest.touched,
    s.changed || rest.changed⟩

def close (env : Env) (s : Stage) (rest : Made (List Node)) : Made Node :=
  s.finish.apply env s.parent (s.join rest)

end Stage

/-- What a visit answers: to leave a node alone with all below it, to go on below it, or to go on below
what took its place, which the nodes after it that belong to the same run are detached for. -/
inductive Answer where
  | leave
  | enter (stage : Stage)
  | replace (stage : Stage) (run : Nat)

def visit (env : Env) (context : Option Context) (item : Item) (frames : List Frame) : Logged Answer :=
  let n := item.node
  if skippedKinds.contains n.kind then pure .leave
  else if Scope.isFunction n then
    match Scope.componentName? env.source ⟨n, frames⟩ with
    | none => pure (.enter (.into item frames context .entered))
    | some name =>
      pure (.enter (.into item frames (some ⟨name, item.place frames⟩)
        (.component name (Scope.callsFunction env.source env.serverFunction n))))
  else
    match context with
    | none => pure (.enter (.into item frames context .entered))
    | some owner =>
      if n.kind == "string" then do
        match ← wrapString? env owner.name ⟨n, frames⟩ with
        | none => return .leave
        | some new => return .replace (.inPlace new frames context) 0
      else if n.kind == "template_string" then do
        match ← templateKey? env owner.name ⟨n, frames⟩ with
        | none => return .enter (.into item frames context .entered)
        | some key => return .replace (.ofTemplate env key item frames context) 0
      else if Literal.isJsxText n then
        if (Focus.mk n frames).siblingsBefore.head?.any Literal.isJsxText then pure .leave
        else do
          let more := (Focus.mk n frames).siblingsAfter.takeWhile Literal.isJsxText
          match ← wrapRun? env owner.name ⟨n, frames⟩ more with
          | none => return .leave
          | some new => return .replace (.inPlace new frames context) more.length
      else pure (.enter (.into item frames context .entered))

inductive Deed where
  | failed
  | left
  | entered
  | replaced

structure Visited where
  item : Item
  context : Option Context
  deed : Deed

/-- Where the loop is: before the root, inside some nodes, or at its end. -/
inductive State where
  | root (root : Node)
  | inside (top : Stage) (outer : List Stage)
  | ended (result : Except Fault (Made Node))

structure Walker where
  visited : List Visited
  entries : List Entry
  state : State

namespace Walker

def start (root : Node) : Walker := ⟨[], [], .root root⟩

def record (w : Walker) (item : Item) (context : Option Context) (answer : Logged Answer) (deed : Deed)
    (state : State) : Walker :=
  ⟨w.visited ++ [⟨item, context, deed⟩], w.entries ++ answer.entries, state⟩

/-- One round of the loop, or one return from a node that is done. A text inside a node that was put in is
no child of it, so it is not visited. -/
def step (env : Env) (w : Walker) : Walker :=
  match w.state with
  | .ended _ => w
  | .root root =>
    let item := Item.parsed (.ofRoot root)
    let answer := visit env none item []
    match answer.result with
    | .error fault => w.record item none answer .failed (.ended (.error fault))
    | .ok .leave => w.record item none answer .left (.ended (.ok (.same root)))
    | .ok (.enter stage) => w.record item none answer .entered (.inside stage [])
    | .ok (.replace stage _) => w.record item none answer .replaced (.inside stage [])
  | .inside s outer =>
    match s.detached, s.pending with
    | _ :: detached, _ => { w with state := .inside { s with detached } outer }
    | [], item :: rest =>
      let s' := { s with pending := rest }
      if !item.node.isChild then
        { w with state := .inside { s' with before := item.node :: s.before } outer }
      else
        let answer := visit env s.context item (s.frame rest :: s.frames)
        match answer.result with
        | .error fault => w.record item s.context answer .failed (.ended (.error fault))
        | .ok .leave => w.record item s.context answer .left (.inside (s'.take (.same item.node)) outer)
        | .ok (.enter stage) => w.record item s.context answer .entered (.inside stage (s' :: outer))
        | .ok (.replace stage run) =>
          w.record item s.context answer .replaced
            (.inside stage ({ s' with detached := rest.take run, pending := rest.drop run } :: outer))
    | [], [] =>
      match outer with
      | [] => { w with state := .ended (.ok (s.close env (.same []))) }
      | t :: outer => { w with state := .inside (t.take (s.close env (.same []))) outer }

end Walker

inductive Goes (env : Env) (context : Option Context) (item : Item) (frames : List Frame) : Answer → Prop
  | left : Goes env context item frames .leave
  | entered (hown : Scope.isFunction item.node = true →
        Scope.componentName? env.source ⟨item.node, frames⟩ = none) :
      Goes env context item frames (.enter (.into item frames context .entered))
  | component {name : Text} {serverBound : Bool} (hfn : Scope.isFunction item.node = true)
      (hname : Scope.componentName? env.source ⟨item.node, frames⟩ = some name) :
      Goes env context item frames
        (.enter (.into item frames (some ⟨name, item.place frames⟩) (.component name serverBound)))
  | string {owner : Text} {new : Node} (hkind : item.node.kind = "string")
      (hwrap : (wrapString? env owner ⟨item.node, frames⟩).result = .ok (some new)) :
      Goes env context item frames (.replace (.inPlace new frames context) 0)
  | template {key : Text} (hfn : Scope.isFunction item.node = false)
      (hkind : item.node.kind = "template_string") :
      Goes env context item frames (.replace (.ofTemplate env key item frames context) 0)
  | run {owner : Text} {new : Node} {more : List Node} (hjsx : Literal.isJsxText item.node = true)
      (hmore : more = (Focus.mk item.node frames).siblingsAfter.takeWhile Literal.isJsxText)
      (hwrap : (wrapRun? env owner ⟨item.node, frames⟩ more).result = .ok (some new)) :
      Goes env context item frames (.replace (.inPlace new frames context) more.length)

theorem goes_of_visit {env : Env} {context : Option Context} {item : Item} {frames : List Frame}
    {answer : Answer} (h : (visit env context item frames).result = .ok answer) :
    Goes env context item frames answer := by
  unfold visit at h
  dsimp only at h
  split at h
  next =>
    cases h
    exact .left
  split at h
  next hfn =>
    split at h
    next hname =>
      cases h
      exact .entered fun _ => hname
    next name hname =>
      cases h
      exact .component hfn hname
  next hfn =>
  have hentered : Goes env context item frames (.enter (.into item frames context .entered)) :=
    .entered fun h => absurd h hfn
  split at h
  next =>
    cases h
    exact hentered
  split at h
  next hkind =>
    obtain ⟨new?, hwrap, h⟩ := Logged.result_bind_eq_ok.1 h
    cases new? with
    | none =>
      cases h
      exact .left
    | some new =>
      cases h
      exact .string (beq_iff_eq.1 hkind) hwrap
  split at h
  next hkind =>
    obtain ⟨key?, -, h⟩ := Logged.result_bind_eq_ok.1 h
    cases key? with
    | none =>
      cases h
      exact hentered
    | some key =>
      cases h
      exact .template (by simpa using hfn) (beq_iff_eq.1 hkind)
  split at h
  next hjsx =>
    split at h
    next =>
      cases h
      exact .left
    next =>
      obtain ⟨new?, hwrap, h⟩ := Logged.result_bind_eq_ok.1 h
      cases new? with
      | none =>
        cases h
        exact .left
      | some new =>
        cases h
        exact .run hjsx rfl hwrap
  next =>
    cases h
    exact hentered

end Pass
end Phrasebook
