import Phrasebook.Literal.Value
import Phrasebook.Log
import Phrasebook.Settings.Basic

/-!
The head of a module: its directives and its imports. A name that is missing is added to an import
that is already there, or by an import of its own after the directives.
-/

namespace Phrasebook.Header

def isDirective (n : Node) : Bool :=
  n.kind == "expression_statement" &&
  match n.namedChildren.filter fun c => c.kind != "comment" with
  | [c] => c.kind == "string"
  | _ => false

def isHashBang (n : Node) : Bool := n.kind == "hash_bang_line"

/-- The hash-bang line and the directives at the front of some statements, comments between them
passed over, with their positions. -/
def prologueFrom (k : Nat) : List Node → List (Nat × Node)
  | [] => []
  | n :: rest =>
    if isHashBang n || isDirective n then (k, n) :: prologueFrom (k + 1) rest
    else if n.kind == "comment" then prologueFrom (k + 1) rest
    else []

def prologue (program : Node) : List (Nat × Node) := prologueFrom 0 program.children

def plainValue (source : Bytes) (n : Node) : Except Fault Text :=
  Literal.quotedValue false (n.textD source)

def directives (source : Bytes) (program : Node) : Except Fault (List Text) :=
  ((prologue program).filterMap fun (_, n) =>
    if n.kind == "expression_statement" then n.childOfKind? ["string"] else none).mapM
    (plainValue source)

def sourceOf? (source : Bytes) (statement : Node) : Except Fault (Option Text) :=
  match statement.childByField? "source" with
  | none => .ok none
  | some s => if s.kind == "string" then (plainValue source s).map some else .ok none

def isTypeOnly (statement : Node) : Bool :=
  statement.children.any fun c => c.kind == "type" && !c.named

def importsFrom (source : Bytes) (program : Node) (module : Word) :
    Except Fault (List (Nat × Node)) :=
  (program.children.zipIdx.map fun (n, k) => (k, n)).filterM fun (_, n) =>
    if n.kind == "import_statement" then (sourceOf? source n).map module.agrees
    else .ok false

def exportedNames (source : Bytes) (namedImports : Node) : List Text :=
  namedImports.namedChildren.filterMap fun spec =>
    if spec.kind == "import_specifier" then
      (spec.childByField? "name").map (·.textD source)
    else none

def namedImports? (statement : Node) : Option Node :=
  (statement.childOfKind? ["import_clause"]).bind fun clause =>
    clause.childOfKind? ["named_imports"]

def hasImport (source : Bytes) (program : Node) (name module : Word) : Except Fault Bool := do
  let statements ← importsFrom source program module
  return statements.any fun (_, s) =>
    !isTypeOnly s && (namedImports? s).any fun named => (exportedNames source named).any name.names

/-- A text to put among the children of the node at a path, and how it came about. -/
structure Insertion where
  path : Path
  index : Nat
  text : Text
  note : Text

def statementInsertion (lead : List (Nat × Node)) (text note : Text) : Insertion :=
  match lead.getLast? with
  | some (k, _) => ⟨[], k + 1, "\n" ++ text, note⟩
  | none => ⟨[], 0, text ++ "\n", note⟩

def indexOfKind? (n : Node) (kind : String) : Option Nat :=
  n.children.findIdx? fun c => c.kind == kind

def lastOfKind? (n : Node) (kind : String) : Option Nat :=
  ((n.children.zipIdx.filter fun (c, _) => c.kind == kind).getLast?).map (·.2)

/-- The way to add `name` to the import statement at position `k`, when there is one: in its
braces, or in braces after a default import. -/
def extension? (name module : Text) (k : Nat) (statement : Node) : Option Insertion :=
  if isTypeOnly statement then none
  else do
    let j ← indexOfKind? statement "import_clause"
    let clause ← statement.children[j]?
    match indexOfKind? clause "named_imports" with
    | some i =>
      let named ← clause.children[i]?
      let note : Text := "Added " ++ name ++ " to existing import from " ++ module
      match lastOfKind? named "import_specifier" with
      | some last => some ⟨[k, j, i], last + 1, ", " ++ name, note⟩
      | none => some ⟨[k, j, i], 1, " " ++ name ++ " ", note⟩
    | none =>
      match clause.namedChildren.map (·.kind), clause.children.findIdx? Node.named with
      | ["identifier"], some i =>
        some ⟨[k, j], i + 1, ", \x7b " ++ name ++ " \x7d",
          "Added \x7b " ++ name ++ " \x7d to default import from " ++ module⟩
      | _, _ => none

def importStatement (name module : Text) : Text :=
  "import \x7b " ++ name ++ " \x7d from \"" ++ module ++ "\";"

def importInsertion? (source : Bytes) (program : Node) (name module : Word) :
    Except Fault (Option Insertion) := do
  if ← hasImport source program name module then return none
  let statements ← importsFrom source program module
  let (n, m) := (name.spelling, module.spelling)
  match statements.findSome? fun (k, s) => extension? n m k s with
  | some found => return some found
  | none =>
    return some (statementInsertion (prologue program) (importStatement n m)
      ("Inserted import of " ++ n ++ " from " ++ m))

def Insertion.apply (i : Insertion) (root : Node) : Node :=
  (root.insertAt i.path i.index (.leaf i.text)).getD root

def ensureImport (source : Bytes) (name module : Word) (root : Node) : Logged (Node × Bool) := do
  match ← importInsertion? source root name module with
  | none => return (root, false)
  | some insertion =>
    Logged.debug insertion.note
    return (insertion.apply root, true)

/-- The root with a directive before all but a hash-bang line, unless the prologue has it. -/
def ensureDirective (source : Bytes) (directive : Word) (root : Node) :
    Except Fault (Node × Bool) := do
  if (← directives source root).any directive.names then return (root, false)
  let lead := (root.children.take 1).zipIdx.filterMap fun (n, k) =>
    if isHashBang n then some (k, n) else none
  let insertion := statementInsertion lead ("\"" ++ directive.spelling ++ "\";") []
  return (insertion.apply root, true)

def clientDirective : Text := "use client"

/-- What a module makes use of after its bindings are in place. -/
structure Needs where
  client : Bool
  server : Bool
  directive : Bool

/-- The root with the imports and the directive that a module needs, and what was added. -/
def finalize (source : Bytes) (v : Vocabulary) (needs : Needs) (root : Node) :
    Logged (Node × List Text) := do
  let (root, added) ← if needs.client then ensureImport source v.hook v.importSource root
    else pure (root, false)
  let changes : List Text := if added then ["import " ++ v.hook.spelling] else []
  let (root, added) ← if needs.server then
      ensureImport source v.serverFunction v.serverImportSource root
    else pure (root, false)
  let changes := if added then changes ++ [("import " ++ v.serverFunction.spelling : Text)] else changes
  let (root, added) ← if needs.directive then
      Logged.of (ensureDirective source clientDirective root)
    else pure (root, false)
  let directive : Text := "directive \"" ++ clientDirective ++ "\""
  return (root, if added then changes ++ [directive] else changes)

end Phrasebook.Header
