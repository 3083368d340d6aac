import Phrasebook.Literal.Value
import Phrasebook.Text.Basic

/-!
Which literals are left alone whatever they say: arguments of the lookup function, module names,
keys, tagged templates, types, and what a comment or a marker asks to ignore.
-/

namespace Phrasebook.Literal

def ignoreMarker : Text := "i18n-ignore"

def commentValue (t : Text) : Text :=
  if Text.startsWith t "//" then Text.trim (t.drop 2)
  else if Text.startsWith t "/*" then
    let inside := Text.trim ((t.drop 2).take (t.length - 4))
    Text.trim (inside.dropWhile fun c => c.val == 0x2A)
  else Text.trim t

def isIgnoreComment (marker t : Text) : Bool := Text.startsWith (commentValue t) marker

def commentContainer? (n : Node) : Option (List Node) :=
  let named := n.namedChildren
  if n.kind == "jsx_expression" && !named.isEmpty && named.all (fun c => c.kind == "comment") then
    some named
  else none

/-- The comments at the front of a list of siblings; blank JSX text between them is passed over. -/
def commentsIn (source : Bytes) : List Node → List Node
  | [] => []
  | sibling :: rest =>
    if sibling.kind == "comment" then sibling :: commentsIn source rest
    else if sibling.kind == "jsx_text" && Text.isBlank (sibling.textD source) then
      commentsIn source rest
    else match commentContainer? sibling with
      | none => []
      | some inner => inner ++ commentsIn source rest

def leadingComments (source : Bytes) (f : Focus) : List Node := commentsIn source f.siblingsBefore

def isBlock (n : Node) : Bool := n.kind == "program" || n.kind == "statement_block"

def isStatement (n : Node) : Bool :=
  n.kind.endsWith "_statement" || n.kind.endsWith "_declaration" || isBlock n

/-- Whether a node inside the given frames, or a node around it within its statement, has a marker
comment before it. -/
def ignoredWithin (source : Bytes) (marker : Text) (n : Node) : List Frame → Bool
  | [] => false
  | frame :: frames =>
    if isBlock n then false
    else if (leadingComments source ⟨n, frame :: frames⟩).any
        fun c => isIgnoreComment marker (c.textD source) then true
    else if isStatement n then false
    else ignoredWithin source marker (frame.close n) frames

def hasIgnoreComment (source : Bytes) (f : Focus) : Bool :=
  ignoredWithin source ignoreMarker f.node f.frames

def lineHasMarker (marker : Text) (lines : List Text) : Option Int → Bool
  | none => false
  | some row => ((takeTo (row + 1) lines).drop (row - 2).toNat).any (Text.hasInfix marker)

def rowHasMarker (lines : List Text) (n : Node) : Bool :=
  lineHasMarker ignoreMarker lines (n.info.start.map fun m => (m.row : Int))

def isCallOf (source : Bytes) (name : Word) (n : Node) : Bool :=
  n.kind == "call_expression" &&
  match n.childByField? "function" with
  | none => false
  | some callee =>
    if callee.kind == "identifier" then name.names (callee.textD source)
    else if callee.kind == "member_expression" then
      match callee.childByField? "property" with
      | none => false
      | some property => name.names (property.textD source)
    else false

def isCallArgument (source : Bytes) (name : Word) (f : Focus) : Bool :=
  f.parentKind? == some "arguments" &&
  match f.up?.bind Focus.up? with
  | none => false
  | some call => isCallOf source name call.node

def inImport (f : Focus) : Bool :=
  f.ancestorKinds.any fun k => k == "import_statement" || k == "import_require_clause"

def nameFields : List String := ["key", "name", "property", "source", "alias", "label"]

def isName (f : Focus) : Bool :=
  (match f.node.field with
   | some field => nameFields.contains field
   | none => false) ||
  f.parentKind? == some "computed_property_name"

def typeKinds : List String :=
  ["type_annotation", "literal_type", "type_alias_declaration", "interface_declaration",
   "enum_declaration", "type_arguments", "type_parameters", "ambient_declaration",
   "index_signature"]

def inType (f : Focus) : Bool := f.ancestorKinds.any typeKinds.contains

def isTagged (f : Focus) : Bool :=
  f.node.kind == "template_string" && f.parentKind? == some "call_expression"

def isExcluded (source : Bytes) (lines : List Text) (name : Word) (f : Focus) : Bool :=
  isCallArgument source name f || inImport f || isName f || isTagged f || inType f ||
  hasIgnoreComment source f || rowHasMarker lines f.node

end Phrasebook.Literal
