import Phrasebook.Json.Reader
import Phrasebook.Parse.Answer

/-!
Recorded answers of a parser, as JSON. A node is a list of its kind, its flags as the bits of a
number, its first and last offset, its field or an empty text, and its children.
-/

namespace Phrasebook

/-- The flags that are the bits of a number: named, in error, missing, and having such a node. -/
def Flags.ofBits (n : Nat) : Flags :=
  ⟨n % 2 == 1, n / 2 % 2 == 1, n / 4 % 2 == 1, n / 8 % 2 == 1⟩

namespace Record

def stringOf (v : Json) : String := (v.str?.bind Text.toString?).getD ""

def natOf : Json → Nat
  | .int n => n.toNat
  | _ => 0

mutual

def answerOf : Json → Answer
  | .arr (kind :: flags :: start :: stop :: field :: children) =>
    let name := stringOf field
    .node (stringOf kind) (.ofBits (natOf flags)) (natOf start) (natOf stop)
      (if name.isEmpty then none else some name) (answersOf children)
  | _ => default

def answersOf : List Json → List Answer
  | [] => []
  | v :: rest => answerOf v :: answersOf rest

end

/-- One recorded answer: what was parsed with which grammar. -/
structure Entry where
  grammar : String
  code : Text
  tree : Json

def entryOf (v : Json) : Entry :=
  let members : List (Text × Json) := match v with
    | .obj members => members
    | _ => []
  let get (name : String) : Json := (Json.find? members name).getD .null
  ⟨stringOf (get "lang"), (get "code").str?.getD [], get "tree"⟩

def parser (records : Json) : Parser :=
  let entries := match records with
    | .arr items => items.map entryOf
    | _ => []
  fun grammar code =>
    let isAsked (e : Entry) := e.grammar == grammar.name && e.code == code
    (entries.find? isAsked).map fun e => answerOf e.tree

end Record
end Phrasebook
