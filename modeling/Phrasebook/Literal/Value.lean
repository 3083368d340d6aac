import Phrasebook.Literal.CharRef
import Phrasebook.Literal.Escape
import Phrasebook.Script.Search
import Phrasebook.Tree.Focus
import Phrasebook.Tree.Render

/-!
The values of literals: what a string, a template or a run of JSX text shows when the program runs.
-/

namespace Phrasebook.Literal

def jsxTextKinds : List String := ["jsx_text", "html_character_reference"]

def isJsxText (n : Node) : Bool := jsxTextKinds.contains n.kind

/-- The value of a quoted string: an attribute holds character references, any other string
escapes. -/
def quotedValue (inAttribute : Bool) (quoted : Text) : Except Fault Text :=
  let raw := Text.inner 1 quoted
  if inAttribute then CharRef.decode raw else Escape.decode raw

def inAttribute (f : Focus) : Bool := f.parentKind? == some "jsx_attribute"

def stringValue (source : Bytes) (f : Focus) : Except Fault Text :=
  quotedValue (inAttribute f) (f.node.textD source)

/-- A template cut at its substitutions: the static parts and the expressions between them. -/
structure Template where
  quasis : List Text
  expressions : List Node

/-- The expression of a substitution: its first named child that is no comment, or else the whole
substitution. -/
def expressionOf (substitution : Node) : Node :=
  (substitution.namedChildren.find? fun c => c.kind != "comment").getD substitution

def rawQuasis (source : Bytes) (cursor : Option Nat) (stop : Option Nat) : List Node → List Text
  | [] => [Utf8.decodeD (source.slice cursor stop)]
  | s :: rest =>
    Utf8.decodeD (source.slice cursor (s.info.start.map (·.offset))) ::
      rawQuasis source s.info.stop stop rest

def templateParts (source : Bytes) (n : Node) : Except Fault Template := do
  let substitutions := n.children.filter fun c => c.kind == "template_substitution"
  let start := n.info.start.map (·.offset + 1)
  let raw := rawQuasis source start (n.info.stop.map (· - 1)) substitutions
  let quasis ← raw.mapM Escape.decode
  return ⟨quasis, substitutions.map expressionOf⟩

def runSource (source : Bytes) (run : List Node) : Text :=
  Utf8.decodeD (source.slice (run.head?.bind fun n => n.info.start.map (·.offset))
    (run.getLast?.bind (·.info.stop)))

/-- The size of a line break at the front of a text together with the blanks around it, or zero:
blanks and tabs, perhaps a carriage return, a line feed, and all blank characters after it. -/
def breakSize (t : Text) : Nat :=
  let isSpace (c : CodePoint) := c.val == 0x20 || c.val == 0x09
  let lead := t.takeWhile isSpace
  let after := t.dropWhile isSpace
  let (size, rest) := match after with
    | c :: d :: rest =>
      if c.val = 0x0D ∧ d.val = 0x0A then (2, rest)
      else if c.val = 0x0A then (1, d :: rest) else (0, [])
    | [c] => if c.val = 0x0A then (1, []) else (0, [])
    | [] => (0, [])
  if size = 0 then 0 else lead.length + size + (rest.takeWhile CodePoint.isBlank).length

def collapseFrom : Nat → Text → Text
  | _, [] => []
  | skip + 1, _ :: rest => collapseFrom skip rest
  | 0, c :: rest =>
    match breakSize (c :: rest) with
    | 0 => c :: collapseFrom 0 rest
    | size + 1 => CodePoint.ofChar ' ' :: collapseFrom size rest

def collapseBreaks (t : Text) : Text := collapseFrom 0 t

/-- What a stretch of JSX text shows: references replaced, line breaks collapsed, ends trimmed. -/
def jsxValue (raw : Text) : Except Fault Text :=
  (CharRef.decode raw).map fun t => Text.trim (collapseBreaks t)

/-- Whether a part of a literal is text to be looked up: it is not blank and the script is found
in it. -/
def isPhrase (script : Pattern) : List Text → Except Fault Bool
  | [] => .ok false
  | part :: rest =>
    match if Text.isBlank part then .absent else script.search part with
    | .absent => isPhrase script rest
    | .present => .ok true
    | .crossed => .error .crossedGroup

end Phrasebook.Literal
