import Phrasebook.Tree.Render

/-!
Names for the expressions of a template. An identifier keeps its name and a chain of members joins
its names; any other expression is named by its position. Expressions with one text share a name.
-/

namespace Phrasebook.Placeholder

mutual

def chain? (source : Bytes) : Node → Option (List Text)
  | .text _ => none
  | .branch i items =>
    let n := Node.branch i items
    if i.kind == "identifier" then some [n.textD source]
    else if i.kind == "member_expression" then
      match n.childByField? "property" with
      | none => none
      | some property =>
        if property.kind == "property_identifier" then
          (objectChain? source items).map (· ++ [property.textD source])
        else none
    else none

def objectChain? (source : Bytes) : List Node → Option (List Text)
  | [] => none
  | n :: rest =>
    if n.isChild && n.field == some "object" then chain? source n else objectChain? source rest

end

def derived? (source : Bytes) (expression : Node) : Option Text :=
  (chain? source expression).map (Text.join "_")

def positional (i : Nat) : Text := "expr" ++ Text.ofNat i

abbrev Owners := List (Text × Text)

def isTaken (owners : Owners) (name text : Text) : Bool :=
  match owners.find? fun o => o.1 == name with
  | some (_, owner) => owner != text
  | none => false

/-- The first name among `base`, `base_n`, `base_(n+1)`, … that is free, within `fuel` tries. -/
def firstFree (owners : Owners) (base text : Text) : Nat → Nat → Text → Text
  | 0, _, name => name
  | fuel + 1, n, name =>
    if isTaken owners name text then
      firstFree owners base text fuel (n + 1) (base ++ "_" ++ Text.ofNat n)
    else name

def nameFor (owners : Owners) (i : Nat) (derived : Option Text) (text : Text) : Text :=
  let own := match derived with
    | some (c :: rest) => c :: rest
    | _ => positional i
  if isTaken owners own text then
    firstFree owners (positional i) text (owners.length + 1) 1 (positional i)
  else own

def namesFrom (owners : Owners) (i : Nat) : List (Option Text × Text) → List Text
  | [] => []
  | (derived, text) :: rest =>
    let name := nameFor owners i derived text
    let owners := if owners.any fun o => o.1 == name then owners else owners ++ [(name, text)]
    name :: namesFrom owners (i + 1) rest

def names (source : Bytes) (expressions : List Node) : List Text :=
  namesFrom [] 0 (expressions.map fun e => (derived? source e, e.textD source))

def firstUses {α : Type} (seen : List Text) : List (Text × α) → List (Text × α)
  | [] => []
  | (name, a) :: rest =>
    if seen.contains name then firstUses seen rest
    else (name, a) :: firstUses (name :: seen) rest

def interpolateTail : List Text → List Text → Text
  | name :: names, quasi :: quasis =>
    "\x7b\x7b" ++ name ++ "\x7d\x7d" ++ quasi ++ interpolateTail names quasis
  | _, _ => []

def interpolate : List Text → List Text → Except Fault Text
  | [], _ => .error .emptyList
  | quasi :: quasis, names => .ok (quasi ++ interpolateTail names quasis)

end Phrasebook.Placeholder
