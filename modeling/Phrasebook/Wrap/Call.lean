import Phrasebook.Literal.Value
import Phrasebook.Wrap.Placeholder

/-!
The nodes that take the place of literals: a call of the lookup function with the literal's text as
its key, in braces where JSX needs them, and with an object of the expressions of a template.
-/

namespace Phrasebook.Wrap

def optionItems : List (Text × Node) → List Node
  | [] => []
  | [(name, e)] => [.text (name ++ ": "), e]
  | (name, e) :: rest => .text (name ++ ": ") :: e :: .text ", " :: optionItems rest

def callWith (function literal : Text) (options : List (Text × Node)) : Node :=
  let object := if options.isEmpty then [] else
    .text ", \x7b " :: optionItems options ++ [.text " \x7d"]
  .build "call_expression"
    (.text (function ++ "(") :: .text literal :: object ++ [.text ")"])

def lookupCall (function key : Text) (options : List (Text × Node)) : Node :=
  callWith function (Escape.encode key) options

def braced (n : Node) : Node := .build "jsx_expression" [.text "\x7b", n, .text "\x7d"]

def ofString (function value : Text) (inAttribute : Bool) : Node :=
  let call := lookupCall function value []
  if inAttribute then braced call else call

/-- What takes the place of JSX text: the call in braces between the blanks that were around the
text. -/
def ofJsxText (function raw value : Text) : Node :=
  let lead := raw.takeWhile CodePoint.isBlank
  let trail := raw.drop (lead.length + (Text.trim raw).length)
  .build "synthetic" [.text lead, braced (lookupCall function value []), .text trail]

def ofTemplate (source : Bytes) (function : Text) (t : Literal.Template) : Except Fault Node := do
  let names := Placeholder.names source t.expressions
  let key ← Placeholder.interpolate t.quasis names
  return lookupCall function key (Placeholder.firstUses [] (names.zip t.expressions))

end Phrasebook.Wrap
