import Phrasebook.Wrap.Binding
import Phrasebook.Wrap.Header
import Phrasebook.Wrap.Pass

/-!
One pass over one module: literals are wrapped, the components that changed get their binding, and
the module gets the imports and the directive it then needs.
-/

namespace Phrasebook

/-- A component after a pass, and what came of binding it; nothing did when it was not modified. -/
structure Report where
  component : Pass.Component
  outcome : Binding.Outcome

structure Transformed where
  code : Text
  modified : Bool
  reports : List Report
  usedClient : Bool
  usedServer : Bool
  changes : List Text

/-- The tree and the paths of the components bound in it so far. -/
structure Bindings where
  root : Node
  injected : List Path

def bindComponents (tree : Tree) (settings : Settings) :
    Bindings → List Pass.Component → Logged (Bindings × List Report)
  | b, [] => pure (b, [])
  | b, c :: rest => do
    let (b, outcome) ← if c.modified then do
        let (root, outcome) ← Binding.inject tree.source tree.lines settings.vocabulary
          settings.mode b.injected b.root ⟨c.name, c.path, c.serverBound⟩
        let injected := if outcome.side?.isSome then b.injected ++ [c.path] else b.injected
        pure (⟨root, injected⟩, outcome)
      else pure (b, .none)
    let (b, reports) ← bindComponents tree settings b rest
    return (b, ⟨c, outcome⟩ :: reports)

def transform (settings : Settings) (tree : Tree) : Logged Transformed := do
  let v := settings.vocabulary
  let env : Pass.Env := ⟨tree.source, tree.lines, v.function, v.serverFunction, settings.script⟩
  let made ← Pass.walk env tree.root
  let (bindings, reports) ← bindComponents tree settings ⟨made.part, []⟩ made.components
  let used (side : Side) := reports.any fun r => r.outcome == .injected side
  let needs : Header.Needs :=
    ⟨used .client, used .server, needsClientDirective settings.mode settings.framework⟩
  let (root, changes) ← if made.changed then Header.finalize tree.source v needs bindings.root
    else pure (bindings.root, [])
  let code ← Tree.print { tree with root }
  return ⟨code, made.changed, reports, needs.client, needs.server, changes⟩

def parseLogged (parser : Parser) (backend : Backend) (code : Text) (path : Option Text) :
    Logged Tree := do
  let tree ← parse parser backend code path
  let shown : Text := match path with
    | some (c :: rest) => c :: rest
    | _ => "<source>"
  let grammar := (backend.grammar path).name
  Logged.debug ("Parsed " ++ shown ++ " with " ++ backend.name ++ "/" ++ grammar)
  return tree

def transformCode (parser : Parser) (settings : Settings) (code : Text) (path : Option Text) :
    Logged Transformed := do
  let tree ← parseLogged parser settings.backend code path
  transform settings tree

end Phrasebook
