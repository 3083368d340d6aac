import Phrasebook.Scope.Functions

/-!
Bindings: the names that patterns, parameters and statements bind, and whether a name is bound in a
function or in a scope around it.
-/

namespace Phrasebook.Scope

/-- The fields of a pattern that hold keys, default values or types rather than bindings. -/
def unboundFields (kind : String) : List String :=
  if kind == "pair_pattern" then ["key"]
  else if kind == "assignment_pattern" || kind == "object_assignment_pattern" then ["right"]
  else if kind == "required_parameter" || kind == "optional_parameter" then ["value", "type"]
  else []

mutual

def patternNames (source : Bytes) : Node → List Text
  | .text _ => []
  | .branch i items =>
    if i.kind == "identifier" || i.kind == "shorthand_property_identifier_pattern" then
      [(Node.branch i items).textD source]
    else if i.kind == "type_annotation" || i.kind == "comment" then []
    else patternNamesIn source (unboundFields i.kind) items

def patternNamesIn (source : Bytes) (skipped : List String) : List Node → List Text
  | [] => []
  | n :: rest =>
    let passedOver := match n.field with
      | some field => skipped.contains field
      | none => false
    if n.isChild && !passedOver then patternNames source n ++ patternNamesIn source skipped rest
    else patternNamesIn source skipped rest

end

def parameterNames (source : Bytes) (fn : Node) : List Text :=
  match fn.childByField? "parameter" with
  | some single => patternNames source single
  | none =>
    match fn.childByField? "parameters" with
    | none => []
    | some params => params.namedChildren.flatMap (patternNames source)

def specifierName? (source : Bytes) (spec : Node) : Option Text :=
  if spec.kind == "import_specifier" then
    ((spec.childByField? "alias").or (spec.childByField? "name")).map (·.textD source)
  else none

def importedNames (source : Bytes) (statement : Node) : List Text :=
  match statement.childOfKind? ["import_clause"] with
  | none => []
  | some clause => clause.namedChildren.flatMap fun c =>
    if c.kind == "identifier" then [c.textD source]
    else if c.kind == "namespace_import" then
      ((c.childOfKind? ["identifier"]).map (·.textD source)).toList
    else if c.kind == "named_imports" then c.namedChildren.filterMap (specifierName? source)
    else []

def declaratorNames (source : Bytes) (statement : Node) : List Text :=
  statement.namedChildren.flatMap fun d =>
    if d.kind == "variable_declarator" then
      ((d.childByField? "name").map (patternNames source)).getD []
    else []

mutual

def declaredNames (source : Bytes) : Node → List Text
  | .text _ => []
  | .branch i items =>
    let n := Node.branch i items
    if i.kind == "lexical_declaration" || i.kind == "variable_declaration" then
      declaratorNames source n
    else if ["function_declaration", "generator_function_declaration", "class_declaration"].contains
        i.kind then
      ((n.childByField? "name").map (·.textD source)).toList
    else if i.kind == "export_statement" then exportedNames source items
    else if i.kind == "import_statement" then importedNames source n
    else []

def exportedNames (source : Bytes) : List Node → List Text
  | [] => []
  | n :: rest =>
    if n.isChild && n.field == some "declaration" then declaredNames source n
    else exportedNames source rest

end

def blockBinds (source : Bytes) (name : Word) (block : Node) : Bool :=
  block.namedChildren.any fun s => (declaredNames source s).any name.names

/-- Whether one scope binds `name`: a function by its parameters or its body, a block by its
statements. -/
def scopeBinds (source : Bytes) (name : Word) (n : Node) : Bool :=
  if isFunction n then
    (parameterNames source n).any name.names ||
    match n.childByField? "body" with
    | some body => body.kind == "statement_block" && blockBinds source name body
    | none => false
  else (n.kind == "statement_block" || n.kind == "program") && blockBinds source name n

def boundWithin (source : Bytes) (name : Word) (n : Node) : List Frame → Bool
  | [] => scopeBinds source name n
  | frame :: frames => scopeBinds source name n || boundWithin source name (frame.close n) frames

def isBound (source : Bytes) (name : Word) (f : Focus) : Bool :=
  boundWithin source name f.node f.frames

end Phrasebook.Scope
