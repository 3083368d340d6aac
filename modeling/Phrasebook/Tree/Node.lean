import Phrasebook.Text.Basic

/-!
Syntax trees that are edited and printed again. A *parsed* node covers a span of the source and
prints as that span until something below it changes. A *built* node prints as its items, texts and
nodes in order. A node put where another was takes over that node's span, so the printer knows
which part of the source it stands for.
-/

namespace Phrasebook

/-- Where a node begins: its offset in octets, its row, and its column in octets. -/
structure Mark where
  offset : Nat
  row : Nat
  column : Nat
deriving DecidableEq

/-- How a node belongs to its parent. An item of a built node is as a rule both printed and
reached; one that an edit put beside the printed items, or left among them, is only one of these. -/
inductive Standing
  | full
  | printedOnly
  | reachedOnly
deriving DecidableEq

/-- What is known of a node apart from its items. `dirty` says that something at or below it was
edited; `built` that it prints as its items rather than as source. -/
structure Info where
  kind : String
  named : Bool := true
  field : Option String := none
  start : Option Mark := none
  stop : Option Nat := none
  dirty : Bool := false
  built : Bool := false
  standing : Standing := .full
deriving DecidableEq

inductive Node
  | text (content : Text)
  | branch (info : Info) (items : List Node)

abbrev Path := List Nat

namespace Node

instance : Inhabited Node := ⟨text []⟩

def info : Node → Info
  | text _ => { kind := "" }
  | branch i _ => i

def items : Node → List Node
  | text _ => []
  | branch _ items => items

def mapInfo (f : Info → Info) : Node → Node
  | text t => text t
  | branch i items => branch (f i) items

def kind (n : Node) : String := n.info.kind

def named (n : Node) : Bool := n.info.named

def field (n : Node) : Option String := n.info.field

def isChild : Node → Bool
  | text _ => false
  | branch i _ => i.standing != .printedOnly

def isPrinted : Node → Bool
  | text _ => true
  | branch i _ => i.standing != .reachedOnly

def children (n : Node) : List Node := n.items.filter isChild

def namedChildren (n : Node) : List Node := n.children.filter named

def childByField? (n : Node) (name : String) : Option Node :=
  n.children.find? fun c => c.field == some name

def childOfKind? (n : Node) (kinds : List String) : Option Node :=
  n.children.find? fun c => kinds.contains c.kind

mutual

def preorder : Node → List Node
  | text _ => []
  | branch i items => branch i items :: preorderItems items

def preorderItems : List Node → List Node
  | [] => []
  | n :: rest => if n.isChild then preorder n ++ preorderItems rest else preorderItems rest

end

def build (kind : String) (items : List Node) : Node :=
  branch { kind, built := true } (items.map (mapInfo fun i => { i with standing := .full }))

def leaf (t : Text) : Node := build "synthetic" [text t]

def label (n : Node) : Text :=
  match n.info.start with
  | none => "<Node " ++ n.kind ++ " (inserted)>"
  | some m =>
    let stop : Text := match n.info.stop with
      | some b => Text.ofNat b
      | none => "None"
    "<Node " ++ n.kind ++ " " ++ Text.ofNat m.offset ++ ":" ++ stop ++ ">"

end Node

def Info.inherit (new old : Info) : Info :=
  match new.start with
  | some _ => new
  | none => { new with start := old.start, stop := old.stop }

end Phrasebook
