import Phrasebook.Fault
import Phrasebook.Tree.Render

/-!
What a parser answers, and how a tree is made of it. The parser itself is a parameter of this
library: a function from a grammar and a source to an answer. An answer that is flagged as faulty
is refused at its first node that is in error or missing.
-/

namespace Phrasebook

inductive Grammar
  | tsx
  | typescript
  | javascript
deriving DecidableEq

def Grammar.name : Grammar → String
  | .tsx => "tsx"
  | .typescript => "typescript"
  | .javascript => "javascript"

inductive Backend
  | tsx
  | javascript
deriving DecidableEq

namespace Backend

def name : Backend → String
  | tsx => "tsx"
  | javascript => "javascript"

def names : List String := ["tsx", "javascript"]

def ofName? (t : Text) : Option Backend :=
  if t = "tsx" then some tsx else if t = "javascript" then some javascript else none

def grammar (b : Backend) (path : Option Text) : Grammar :=
  match b with
  | javascript => .javascript
  | tsx =>
    let isPlain := match path with
      | some p => Text.endsWith p ".ts" || Text.endsWith p ".mts" || Text.endsWith p ".cts"
      | none => false
    if isPlain then .typescript else .tsx

end Backend

/-- The flags of a node: whether it is in error, missing, or has such a node at or below it. -/
structure Flags where
  named : Bool
  isError : Bool
  isMissing : Bool
  hasError : Bool

/-- A node as the parser reports it, with its span in octets. -/
inductive Answer
  | node (kind : String) (flags : Flags) (start stop : Nat) (field : Option String)
      (children : List Answer)

namespace Answer

instance : Inhabited Answer := ⟨node "" ⟨false, false, false, false⟩ 0 0 none []⟩

def kind : Answer → String
  | node kind _ _ _ _ _ => kind

def flags : Answer → Flags
  | node _ flags _ _ _ _ => flags

def start : Answer → Nat
  | node _ _ start _ _ _ => start

mutual

/-- The first node in error or missing, in preorder; only flagged nodes are searched below. -/
def firstFault? : Answer → Option Answer
  | node kind flags start stop field children =>
    if flags.isError || flags.isMissing then some (node kind flags start stop field children)
    else if flags.hasError then firstFaultIn? children
    else none

def firstFaultIn? : List Answer → Option Answer
  | [] => none
  | a :: rest => (firstFault? a).or (firstFaultIn? rest)

end

def markOf (source : Bytes) (offset : Nat) : Mark :=
  let before := source.take offset
  let row := before.count 0x0A
  let column := (before.reverse.takeWhile (· != 0x0A)).length
  ⟨offset, row, column⟩

mutual

def toNode (source : Bytes) : Answer → Node
  | node kind flags start stop field children =>
    let mark := markOf source start
    .branch { kind, named := flags.named, field, start := some mark, stop := some stop }
      (toNodes source children)

def toNodes (source : Bytes) : List Answer → List Node
  | [] => []
  | a :: rest => toNode source a :: toNodes source rest

end

def refusal (source : Bytes) (path : Option Text) (root : Answer) : ParseFault :=
  match root.firstFault? with
  | none => ⟨"Unexpected token", path, some 1, some 0⟩
  | some bad =>
    let m := markOf source bad.start
    let reason : Text := if bad.flags.isMissing then "Missing " ++ bad.kind else "Unexpected token"
    ⟨reason, path, some (m.row + 1), some m.column⟩

end Answer

abbrev Parser := Grammar → Text → Option Answer

def parse (parser : Parser) (backend : Backend) (code : Text) (path : Option Text) :
    Except Fault Tree := do
  let source ← Utf8.encode code
  match parser (backend.grammar path) code with
  | none => .error .noTree
  | some answer =>
    if answer.flags.hasError then .error (.parse (answer.refusal source path))
    else .ok ⟨source, answer.toNode source⟩

end Phrasebook
