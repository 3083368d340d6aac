import Phrasebook.Text.Basic

/-!
JSON values. Members of an object keep the order of their first appearance.
-/

namespace Phrasebook

/-- A JSON value; whole numbers of any size are kept apart from doubles. -/
inductive Json
  | null
  | bool (value : Bool)
  | int (value : Int)
  | float (value : Float)
  | str (value : Text)
  | arr (items : List Json)
  | obj (members : List (Text × Json))

namespace Json

instance : Inhabited Json := ⟨null⟩

/-- The members with `key` bound to `value`: in place when the key is there, at the end when not. -/
def put {α : Type} (members : List (Text × α)) (key : Text) (value : α) : List (Text × α) :=
  match members with
  | [] => [(key, value)]
  | (k, v) :: rest => if k = key then (k, value) :: rest else (k, v) :: put rest key value

def find? {α : Type} (members : List (Text × α)) (key : Text) : Option α :=
  (members.find? fun m => m.1 == key).map (·.2)

def isSet : Json → Bool
  | null => false
  | bool b => b
  | int n => n != 0
  | float x => x != 0
  | str t => !t.isEmpty
  | arr items => !items.isEmpty
  | obj members => !members.isEmpty

def isNull : Json → Bool
  | null => true
  | _ => false

def str? : Json → Option Text
  | str t => some t
  | _ => none

end Json
end Phrasebook
