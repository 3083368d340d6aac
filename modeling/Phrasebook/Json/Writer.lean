import Phrasebook.Decimal.Double
import Phrasebook.Json.Basic
import Phrasebook.Text.Quoted

/-!
Writing JSON: compactly, indented by two spaces, and as messages show a value.
-/

namespace Phrasebook.Json

/-- One character of a string: quote, backslash and controls are escaped, all else is kept. -/
def escapeChar (c : CodePoint) : Text :=
  if c.val = 0x22 then "\\\""
  else if c.val = 0x5C then "\\\\"
  else if c.val = 0x0A then "\\n"
  else if c.val = 0x0D then "\\r"
  else if c.val = 0x09 then "\\t"
  else if c.val = 0x0C then "\\f"
  else if c.val = 0x08 then "\\b"
  else if c.val < 0x20 then "\\u" ++ Text.hex 4 c.val
  else [c]

def writeString (t : Text) : Text := "\"" ++ t.flatMap escapeChar ++ "\""

def writeFloat (x : Float) : Text := Decimal.writeShortest "NaN" "Infinity" (.ofFloat x)

def writeAtom : Json → Text
  | null => "null"
  | bool b => if b then "true" else "false"
  | int n => Text.ofInt n
  | float x => writeFloat x
  | str t => writeString t
  | _ => []

mutual

def compact : Json → Text
  | arr items => "[" ++ Text.join "," (compactItems items) ++ "]"
  | obj members => "\x7b" ++ Text.join "," (compactMembers members) ++ "\x7d"
  | v => writeAtom v

def compactItems : List Json → List Text
  | [] => []
  | v :: rest => compact v :: compactItems rest

def compactMembers : List (Text × Json) → List Text
  | [] => []
  | (k, v) :: rest => (writeString k ++ ":" ++ compact v) :: compactMembers rest

end

mutual

def spaced : Json → Text
  | arr items => "[" ++ Text.join ", " (spacedItems items) ++ "]"
  | obj members => "\x7b" ++ Text.join ", " (spacedMembers members) ++ "\x7d"
  | v => writeAtom v

def spacedItems : List Json → List Text
  | [] => []
  | v :: rest => spaced v :: spacedItems rest

def spacedMembers : List (Text × Json) → List Text
  | [] => []
  | (k, v) :: rest => (writeString k ++ ": " ++ spaced v) :: spacedMembers rest

end

def lineBreak (level : Nat) : Text := "\n" ++ List.replicate (2 * level) (CodePoint.ofChar ' ')

def bracketed (level : Nat) (opening closing : Text) (pieces : List Text) : Text :=
  if pieces.isEmpty then opening ++ closing
  else
    opening ++ lineBreak (level + 1) ++ Text.join ("," ++ lineBreak (level + 1)) pieces ++
      lineBreak level ++ closing

mutual

def indented (level : Nat) : Json → Text
  | arr items => bracketed level "[" "]" (indentedItems (level + 1) items)
  | obj members => bracketed level "\x7b" "\x7d" (indentedMembers (level + 1) members)
  | v => writeAtom v

def indentedItems (level : Nat) : List Json → List Text
  | [] => []
  | v :: rest => indented level v :: indentedItems level rest

def indentedMembers (level : Nat) : List (Text × Json) → List Text
  | [] => []
  | (k, v) :: rest => (writeString k ++ ": " ++ indented level v) :: indentedMembers level rest

end

mutual

def shown : Json → Text
  | null => "None"
  | bool b => if b then "True" else "False"
  | int n => Text.ofInt n
  | float x => Decimal.writeShortest "nan" "inf" (.ofFloat x)
  | str t => Text.quoted t
  | arr items => "[" ++ Text.join ", " (shownItems items) ++ "]"
  | obj members => "\x7b" ++ Text.join ", " (shownMembers members) ++ "\x7d"

def shownItems : List Json → List Text
  | [] => []
  | v :: rest => shown v :: shownItems rest

def shownMembers : List (Text × Json) → List Text
  | [] => []
  | (k, v) :: rest => (Text.quoted k ++ ": " ++ shown v) :: shownMembers rest

end

def summary (limit : Int) (v : Json) : Text :=
  let t := compact v
  if (t.length : Int) ≤ limit then t else takeTo limit t ++ "…(truncated)"

end Phrasebook.Json

namespace Phrasebook

def textOf : Json → Text
  | .str t => t
  | v => v.shown

end Phrasebook
