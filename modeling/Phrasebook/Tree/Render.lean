import Phrasebook.Fault
import Phrasebook.Tree.Node

/-!
Printing. A clean parsed node is its slice of the source. A dirty one is printed child by child,
with the source between the children copied; a child without a span is printed where its
predecessor ended.
-/

namespace Phrasebook.Node

mutual

def render (source : Bytes) : Node → Except Fault Bytes
  | text t => Utf8.encode t
  | branch i items =>
    if i.built then renderItems source items
    else if i.dirty then renderSpliced source (i.start.map (·.offset)) i.stop items
    else match i.start with
      | some m => .ok (source.slice (some m.offset) i.stop)
      | none => .ok []

def renderItems (source : Bytes) : List Node → Except Fault Bytes
  | [] => .ok []
  | n :: rest => do
    let bytes ← if n.isPrinted then render source n else .ok []
    let more ← renderItems source rest
    return bytes ++ more

def renderSpliced (source : Bytes) (cursor stop : Option Nat) : List Node → Except Fault Bytes
  | [] => .ok (source.slice cursor stop)
  | n :: rest =>
    match n.info.start with
    | some m => do
      let bytes ← render source n
      let more ← renderSpliced source n.info.stop stop rest
      return source.slice cursor (some m.offset) ++ (bytes ++ more)
    | none => do
      let bytes ← render source n
      let more ← renderSpliced source cursor stop rest
      return bytes ++ more

end

/-- The text of a node: its slice of the source while it is parsed and clean, else as printed. -/
def text? (source : Bytes) (n : Node) : Except Fault Text := do
  let bytes ← n.render source
  Utf8.decodeFault bytes

def textD (source : Bytes) (n : Node) : Text :=
  match n.text? source with
  | .ok t => t
  | .error _ => []

end Phrasebook.Node

namespace Phrasebook

/-- One file's syntax: its octets and the root that covers them. -/
structure Tree where
  source : Bytes
  root : Node

namespace Tree

def isModified (t : Tree) : Bool := t.root.info.dirty

/-- The whole file as text: the source while nothing was edited, else the printed root between the
parts of the source that it does not cover. -/
def print (t : Tree) : Except Fault Text :=
  if t.isModified then do
    let before ← Utf8.decodeFault (t.source.slice none (t.root.info.start.map (·.offset)))
    let middle ← t.root.text? t.source
    let after ← Utf8.decodeFault (t.source.slice t.root.info.stop none)
    return before ++ middle ++ after
  else Utf8.decodeFault t.source

def lines (t : Tree) : List Text := Text.cut (CodePoint.ofNat 0x0A) (Utf8.decodeD t.source)

def lineIndent (t : Tree) (row : Int) : Except Fault Text :=
  let lines := t.lines
  if (lines.length : Int) ≤ row then .ok []
  else
    let index := if row < 0 then row + lines.length else row
    if index < 0 then .error .emptyList
    else .ok ((lines.getD index.toNat []).takeWhile fun c => c.val == 0x20 || c.val == 0x09)

end Tree
end Phrasebook
