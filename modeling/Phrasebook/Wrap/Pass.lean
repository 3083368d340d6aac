import Phrasebook.Literal.Exclusion
import Phrasebook.Log
import Phrasebook.Scope.Functions
import Phrasebook.Settings.Basic
import Phrasebook.Tree.Weight
import Phrasebook.Wrap.Call

/-!
The walk that wraps literals. It goes through the tree as parsed, each node before its children,
and puts lookup calls in place of the phrases it finds inside components. It goes on into the
expressions of a template that it wrapped.
-/

namespace Phrasebook.Pass

structure Env where
  source : Bytes
  lines : List Text
  function : Word
  serverFunction : Word
  script : Pattern

/-- A component or hook, by its place in the tree that the walk leaves. -/
structure Component where
  name : Text
  path : Path
  serverBound : Bool
  modified : Bool

def Component.below (k : Nat) (c : Component) : Component := { c with path := k :: c.path }

/-- What the walk makes of some part of the tree. -/
structure Made (α : Type) where
  part : α
  components : List Component
  touched : Bool
  changed : Bool

def Made.same {α : Type} (part : α) : Made α := ⟨part, [], false, false⟩

def skippedKinds : List String := ["comment", "import_statement", "regex"] ++ Literal.typeKinds

def note (kind : String) (n : Node) (owner : Text) : Logged Unit :=
  let (row, column) : Nat × Text := match n.info.start with
    | some m => (m.row, Text.ofNat m.column)
    | none => (0, "None")
  let place := Text.ofNat (row + 1) ++ ":" ++ column
  Logged.debug ("Wrapping " ++ kind ++ " at " ++ place ++ " in " ++ owner)

def Env.isExcluded (env : Env) (f : Focus) : Bool :=
  Literal.isExcluded env.source env.lines env.function f

def wrapString? (env : Env) (owner : Text) (f : Focus) : Logged (Option Node) := do
  let value ← Literal.stringValue env.source f
  if (← Literal.isPhrase env.script [value]) && !env.isExcluded f then
    note "string" f.node owner
    return some ((Wrap.ofString env.function.spelling value (Literal.inAttribute f)).inPlaceOf f.node)
  else return none

/-- A run of JSX text, given by its first node in its frames and the nodes after it: what takes its
place, if it is to be wrapped. -/
def wrapRun? (env : Env) (owner : Text) (f : Focus) (more : List Node) :
    Logged (Option Node) := do
  let run := f.node :: more
  let raw := Literal.runSource env.source run
  let value ← Literal.jsxValue raw
  if (← Literal.isPhrase env.script [value]) && !env.isExcluded f then
    note "jsx_text" f.node owner
    let new := Wrap.ofJsxText env.function.spelling raw value
    return some (if more.isEmpty then new.inPlaceOf f.node
      else new.inPlaceOfRun f.node (more.getLastD f.node) .full)
  else return none

/-- The expressions of a template that its call keeps, by name: the first one of each name. -/
def keptExpressions (source : Bytes) (items : List Node) : List (Text × Node) :=
  let isSubstitution (c : Node) := c.kind == "template_substitution"
  let expressions := ((items.filter Node.isChild).filter isSubstitution).map Literal.expressionOf
  Placeholder.firstUses [] ((Placeholder.names source expressions).zip expressions)

def templateKey? (env : Env) (owner : Text) (f : Focus) : Logged (Option Text) := do
  let parts ← Literal.templateParts env.source f.node
  if (← Literal.isPhrase env.script parts.quasis) && !env.isExcluded f then
    note "template" f.node owner
    let key ← Placeholder.interpolate parts.quasis (Placeholder.names env.source parts.expressions)
    return some key
  else return none

theorem weight_expressionOf_le (n : Node) : (Literal.expressionOf n).weight ≤ n.weight := by
  unfold Literal.expressionOf
  cases h : n.namedChildren.find? fun c => c.kind != "comment" with
  | none => simp
  | some c =>
    have hc : c ∈ n.items := by
      have := List.mem_of_find?_eq_some h
      simp only [Node.namedChildren, Node.children, List.mem_filter] at this
      exact this.1.1
    have h1 := Node.weight_lt_of_mem hc
    have h2 := Node.weightItems_items_le n
    simp only [Option.getD_some]
    omega

theorem firstUses_sublist {α : Type} (seen : List Text) (pairs : List (Text × α)) :
    (Placeholder.firstUses seen pairs).Sublist pairs := by
  induction pairs generalizing seen with
  | nil => exact List.Sublist.slnil
  | cons p rest ih =>
    unfold Placeholder.firstUses
    split
    · exact (ih seen).cons p
    · exact (ih _).cons_cons p

theorem map_snd_zip_sublist {α β : Type} (xs : List α) (ys : List β) :
    ((xs.zip ys).map (·.2)).Sublist ys := by
  induction xs generalizing ys with
  | nil => simp
  | cons x xs ih =>
    cases ys with
    | nil => simp
    | cons y ys => simpa using ih ys

theorem weightItems_keptExpressions_le (source : Bytes) (items : List Node) :
    Node.weightItems ((keptExpressions source items).map (·.2)) ≤ Node.weightItems items := by
  unfold keptExpressions
  refine Nat.le_trans (Node.weightItems_sublist ((firstUses_sublist _ _).map _)) ?_
  refine Nat.le_trans (Node.weightItems_sublist (map_snd_zip_sublist _ _)) ?_
  refine Nat.le_trans (Node.weightItems_map_le weight_expressionOf_le _) ?_
  exact Node.weightItems_sublist (List.filter_sublist.trans List.filter_sublist)

def isRunItem (n : Node) : Bool := n.isChild && Literal.isJsxText n

def reassemble (info : Info) (below : Made (List Node)) : Made Node :=
  { part := .branch { info with dirty := info.dirty || below.changed } below.part
    components := below.components
    touched := below.touched
    changed := below.changed }

mutual

def walkNode (env : Env) (owner : Option Text) (frames : List Frame) :
    Node → Logged (Made Node)
  | .text t => pure (.same (.text t))
  | .branch info items =>
    let n := Node.branch info items
    if skippedKinds.contains info.kind then pure (.same n)
    else if Scope.isFunction n then
      match Scope.componentName? env.source ⟨n, frames⟩ with
      | none => do return reassemble info (← walkItems env owner info frames [] 0 items)
      | some name => do
        let made := reassemble info (← walkItems env (some name) info frames [] 0 items)
        let component : Component :=
          { name, path := [], serverBound := Scope.callsFunction env.source env.serverFunction n
            modified := made.touched }
        return { made with components := component :: made.components, touched := false }
    else
      match owner with
      | none => do return reassemble info (← walkItems env owner info frames [] 0 items)
      | some name =>
        if info.kind == "string" then do
          match ← wrapString? env name ⟨n, frames⟩ with
          | none => return .same n
          | some new => return ⟨new, [], true, true⟩
        else if info.kind == "template_string" then do
          match ← templateKey? env name ⟨n, frames⟩ with
          | none => return reassemble info (← walkItems env owner info frames [] 0 items)
          | some key =>
            let kept := keptExpressions env.source items
            have _lighter := weightItems_keptExpressions_le env.source items
            let call := (Wrap.lookupCall env.function.spelling key kept).inPlaceOf n
            let below ← walkItems env owner call.info frames [] 0 (kept.map (·.2))
            let options := (kept.map (·.1)).zip below.part
            let new := (Wrap.lookupCall env.function.spelling key options).inPlaceOf n
            let made := reassemble new.info { below with part := new.items }
            return { made with touched := true, changed := true }
        else do return reassemble info (← walkItems env owner info frames [] 0 items)
termination_by n => n.weight
decreasing_by
  all_goals
    simp only [Node.weight]
    omega

/-- The walk over items of one parent, from left to right: `before` are those already walked, and
`k` is how many children are among them. -/
def walkItems (env : Env) (owner : Option Text) (parent : Info) (frames : List Frame)
    (before : List Node) (k : Nat) : List Node → Logged (Made (List Node))
  | [] => pure (.same [])
  | n :: rest =>
    if !n.isChild then do
      let made ← walkItems env owner parent frames (n :: before) k rest
      return { made with part := n :: made.part }
    else
      match owner, Literal.isJsxText n with
      | some name, true => do
        let more := rest.takeWhile isRunItem
        let after := rest.drop more.length
        have _lighter := Node.weightItems_drop_le (rest.takeWhile isRunItem).length rest
        match ← wrapRun? env name ⟨n, ⟨parent, before, rest⟩ :: frames⟩ more with
        | some new =>
          let made ← walkItems env owner parent frames (new :: before) (k + 1) after
          return { made with part := new :: made.part, touched := true, changed := true }
        | none =>
          let run := n :: more
          let made ← walkItems env owner parent frames (run.reverse ++ before) (k + run.length)
            after
          return { made with part := run ++ made.part }
      | _, _ => do
        let first ← walkNode env owner (⟨parent, before, rest⟩ :: frames) n
        let made ← walkItems env owner parent frames (first.part :: before) (k + 1) rest
        return {
          part := first.part :: made.part
          components := first.components.map (·.below k) ++ made.components
          touched := first.touched || made.touched
          changed := first.changed || made.changed }
termination_by items => Node.weightItems items
decreasing_by
  all_goals
    simp only [Node.weightItems]
    omega

end

def walk (env : Env) (root : Node) : Logged (Made Node) := walkNode env none [] root

end Phrasebook.Pass
