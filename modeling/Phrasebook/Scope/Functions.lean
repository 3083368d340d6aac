import Phrasebook.Text.Basic
import Phrasebook.Tree.Focus
import Phrasebook.Tree.Render

/-!
Functions: which nodes are functions, what they are called, and which names mark a component or a
hook.
-/

namespace Phrasebook.Scope

def functionKinds : List String :=
  ["function_declaration", "generator_function_declaration", "function_expression",
   "generator_function", "arrow_function", "method_definition"]

def declaredKinds : List String := ["function_declaration", "generator_function_declaration"]

def bindableKinds : List String := ["arrow_function", "function_expression", "generator_function"]

def isFunction (n : Node) : Bool := n.named && functionKinds.contains n.kind

def functionName? (source : Bytes) (f : Focus) : Option Text :=
  if declaredKinds.contains f.node.kind then
    (f.node.childByField? "name").map (·.textD source)
  else if bindableKinds.contains f.node.kind && f.node.field == some "value" then
    match f.up? with
    | some parent =>
      if parent.node.kind == "variable_declarator" then
        match parent.node.childByField? "name" with
        | some name => if name.kind == "identifier" then some (name.textD source) else none
        | none => none
      else none
    | none => none
  else none

def isComponentName (name : Text) : Bool :=
  let capital (t : Text) := t.head?.any CodePoint.isUpperLatin
  capital name || (Text.startsWith name "use" && capital (name.drop 3))

def componentName? (source : Bytes) (f : Focus) : Option Text :=
  (functionName? source f).filter isComponentName

def isBareCall (source : Bytes) (name : Word) (n : Node) : Bool :=
  n.kind == "call_expression" &&
  match n.childByField? "function" with
  | some callee => callee.kind == "identifier" && name.names (callee.textD source)
  | none => false

def callsFunction (source : Bytes) (name : Word) (n : Node) : Bool :=
  n.preorder.any (isBareCall source name)

def isAsync (fn : Node) : Bool := fn.children.any fun c => c.kind == "async"

end Phrasebook.Scope
