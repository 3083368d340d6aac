import Phrasebook.Log
import Phrasebook.Scope.Bindings
import Phrasebook.Settings.Basic

/-!
The statement that binds the lookup function at the top of a component:
`const { t } = useTranslation();` on the client, `const { t } = await getServerTranslation();` on
the server, where the component becomes async.
-/

namespace Phrasebook.Binding

/-- The side a component is bound for: the mode of the run, or else the side the component is on. -/
def chooseSide (mode : Option Side) (serverBound : Bool) : Side :=
  mode.getD (if serverBound then .server else .client)

def clientStatement (hook function : Text) : Text :=
  "const \x7b " ++ function ++ " \x7d = " ++ hook ++ "();"

def serverStatement (serverFunction function : Text) : Text :=
  "const \x7b " ++ function ++ " \x7d = await " ++ serverFunction ++ "();"

def indentUnit : Text := "  "

def indentOf (lines : List Text) (mark : Option Mark) : Text :=
  match mark with
  | none => []
  | some m => (lines.getD m.row []).takeWhile fun c => c.val == 0x20 || c.val == 0x09

/-- A statement with the white space that puts it right after an opening brace: on a line of its
own when what follows the brace is on another row. -/
def firstStatementText (lines : List Text) (brace : Node) (following : Option Node)
    (statement : Text) : Text :=
  match following with
  | none => " " ++ statement ++ " "
  | some next =>
    let apart : Bool := match next.info.start with
      | some m => some m.row != brace.info.start.map (·.row)
      | none => false
    if apart then
      let inner : Text := if next.kind == "\x7d" then indentUnit else []
      "\n" ++ indentOf lines next.info.start ++ inner ++ statement
    else if next.kind == "\x7d" then " " ++ statement ++ " "
    else " " ++ statement

def insertFirst (lines : List Text) (root : Node) (path : Path) (statement : Text) :
    Except Fault Node :=
  match (root.at? path).map Node.children with
  | some (brace :: rest) =>
    let text := firstStatementText lines brace rest.head? statement
    match root.insertAt path 1 (.leaf text) with
    | some root => .ok root
    | none => .error .emptyList
  | _ => .error .emptyList

def ensureAsync (root : Node) (path : Path) (fn : Node) : Node × Bool :=
  if Scope.isAsync fn then (root, false)
  else ((root.insertAt path 0 (.leaf "async ")).getD root, true)

/-- The root with the concise body at a path made a block that returns it after a statement. -/
def expandBody (indent : Text) (root : Node) (path : Path) (statement : Text) :
    Except Fault Node :=
  let inner := indent ++ indentUnit
  root.wrapAt path "statement_block"
    [.text "\x7b\n", .text inner, .text statement, .text "\n", .text inner, .text "return "]
    [.text ";\n", .text indent, .text "\x7d"]

/-- A component function: its name, its place in the tree, whether it calls the server function. -/
structure Target where
  name : Text
  path : Path
  serverBound : Bool

inductive Outcome
  | bound
  | none
  | injected (side : Side)
deriving DecidableEq

def Outcome.side? : Outcome → Option Side
  | injected side => some side
  | _ => Option.none

def bodyIndex? (fn : Node) : Option Nat := fn.children.findIdx? fun c => c.field == some "body"

/-- The root with the lookup function bound in one component, unless it is bound there already:
by a declaration, or because the component is at or below one of the paths `injected`. -/
def inject (source : Bytes) (lines : List Text) (v : Vocabulary) (mode : Option Side)
    (injected : List Path) (root : Node) (target : Target) : Logged (Node × Outcome) := do
  let focus? := (Focus.ofRoot root).at? target.path
  if (injected.any fun p => p.isPrefixOf target.path) ||
      focus?.any (Scope.isBound source v.function) then
    Logged.debug (target.name ++ " already binds " ++ v.function.spelling ++ "; skipping injection")
    return (root, .bound)
  else
    match focus? with
    | Option.none => return (root, .none)
    | some focus =>
      let fn := focus.node
      let side := chooseSide mode target.serverBound
      match bodyIndex? fn, fn.childByField? "body" with
      | some k, some body =>
        let isBlock := body.kind == "statement_block"
        match side with
        | .client =>
          if !isBlock then return (root, .none)
          else if Scope.callsFunction source v.hook body then
            Logged.debug (target.name ++ " already calls " ++ v.hook.spelling)
            return (root, .none)
          else
            let statement := clientStatement v.hook.spelling v.function.spelling
            let root ← insertFirst lines root (target.path ++ [k]) statement
            return (root, .injected .client)
        | .server =>
          let statement := serverStatement v.serverFunction.spelling v.function.spelling
          let (root, added) := ensureAsync root target.path fn
          let path := target.path ++ [if added then k + 1 else k]
          let root ← if isBlock then insertFirst lines root path statement
            else expandBody (indentOf lines fn.info.start) root path statement
          return (root, .injected .server)
      | _, _ => return (root, .none)

end Phrasebook.Binding
