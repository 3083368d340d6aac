import Phrasebook.Literal.Exclusion
import Phrasebook.Wrap.Module

/-!
The keys that a source looks up: `t("key")`, `i18n.t("key", { defaultValue: "…" })`.
-/

namespace Phrasebook.Keys

/-- A key with the default text given beside it, and where it was found if that is recorded. -/
structure Key where
  key : Text
  defaultValue : Option Text := none
  file : Option Text := none
  line : Option Nat := none

structure Recording where
  function : Word := .text "t"
  files : Bool := false
  lines : Bool := false

def arguments (call : Focus) : List Focus :=
  match call.childByField? "arguments" with
  | none => []
  | some args =>
    if args.node.kind == "arguments" then
      args.children.filter fun a => a.node.named && a.node.kind != "comment"
    else []

def propertyDefault (source : Bytes) (property : Focus) : Except Fault (Option Text) := do
  if property.node.kind != "pair" then return none
  match property.childByField? "key", property.childByField? "value" with
  | some key, some value =>
    if value.node.kind != "string" then return none
    let name ← if key.node.kind == "string" then Literal.stringValue source key
      else .ok (key.node.textD source)
    if name = "defaultValue" then return some (← Literal.stringValue source value)
    else return none
  | _, _ => return none

def firstDefault (source : Bytes) : List Focus → Except Fault (Option Text)
  | [] => .ok none
  | p :: rest => do
    match ← propertyDefault source p with
    | some value => return some value
    | none => firstDefault source rest

def defaultValue? (source : Bytes) (args : List Focus) : Except Fault (Option Text) :=
  match args with
  | _ :: second :: _ =>
    if second.node.kind == "object" then
      firstDefault source (second.children.filter fun p => p.node.named)
    else .ok none
  | _ => .ok none

def ofCall? (source : Bytes) (path : Option Text) (r : Recording) (call : Focus) :
    Except Fault (Option Key) := do
  if !Literal.isCallOf source r.function call.node then return none
  let args := arguments call
  match args.head? with
  | none => return none
  | some first =>
    if first.node.kind != "string" then return none
    let key ← Literal.stringValue source first
    let defaultValue ← defaultValue? source args
    return some {
      key, defaultValue
      file := if r.files then path else none
      line := if r.lines then some ((call.node.info.start.map (·.row)).getD 0 + 1) else none }

def extract (tree : Tree) (path : Option Text) (r : Recording) : Except Fault (List Key) := do
  let found ← (tree.root.foci []).mapM (ofCall? tree.source path r)
  return found.filterMap id

end Phrasebook.Keys
