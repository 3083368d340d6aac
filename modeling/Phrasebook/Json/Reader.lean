import Phrasebook.Json.Basic
import Phrasebook.Text.Basic

/-!
Reading JSON. The reader also takes `NaN`, `Infinity` and `-Infinity`, keeps the last value of a
repeated key at the key's first place, and says at which code point it refuses a text.
-/

namespace Phrasebook.Json

inductive Refusal
  | byteOrderMark
  | value
  | key
  | colon
  | comma
  | extra
  | unterminated
  | control
  | escape
  | unicodeEscape
  | digits (count : Nat)
deriving DecidableEq

structure ReadFault where
  refusal : Refusal
  position : Nat
  line : Nat
  column : Nat

/-- Where reading has got to: the code points passed and the text ahead. -/
structure Cursor where
  position : Nat
  ahead : Text

abbrev Read (α : Type) := Except (Refusal × Nat) (α × Cursor)

def isSpace (c : CodePoint) : Bool :=
  c.val == 0x20 || c.val == 0x09 || c.val == 0x0A || c.val == 0x0D

def skipFrom (position : Nat) : Text → Cursor
  | [] => ⟨position, []⟩
  | c :: rest => if isSpace c then skipFrom (position + 1) rest else ⟨position, c :: rest⟩

def Cursor.skip (c : Cursor) : Cursor := skipFrom c.position c.ahead

def Cursor.word? (c : Cursor) (word : Text) : Option Cursor :=
  if word.isPrefixOf c.ahead then some ⟨c.position + word.length, c.ahead.drop word.length⟩
  else none

def simpleEscape? (c : CodePoint) : Option CodePoint :=
  if c.val = 0x22 ∨ c.val = 0x5C ∨ c.val = 0x2F then some c
  else if c.val = 0x62 then some (CodePoint.ofNat 0x08)
  else if c.val = 0x66 then some (CodePoint.ofNat 0x0C)
  else if c.val = 0x6E then some (CodePoint.ofNat 0x0A)
  else if c.val = 0x72 then some (CodePoint.ofNat 0x0D)
  else if c.val = 0x74 then some (CodePoint.ofNat 0x09)
  else none

def fourHex? (a b c d : CodePoint) : Option CodePoint :=
  if [a, b, c, d].all CodePoint.isHex then some (CodePoint.ofNat (Text.hexNumber [a, b, c, d]))
  else none

def joined (high low : CodePoint) : CodePoint :=
  CodePoint.ofNat (0x10000 + (high.val - 0xD800) * 0x400 + (low.val - 0xDC00))

def readString (opening position : Nat) : Text → Read Text
  | [] => .error (.unterminated, opening)
  | c :: rest =>
    if c.val = 0x22 then .ok ([], ⟨position + 1, rest⟩)
    else if c.val < 0x20 then .error (.control, position)
    else if c.val = 0x5C then
      match rest with
      | [] => .error (.unterminated, opening)
      | e :: rest =>
        if e.val = 0x75 then
          match rest with
          | h1 :: h2 :: h3 :: h4 :: next :: rest =>
            match fourHex? h1 h2 h3 h4 with
            | none => .error (.unicodeEscape, position + 1)
            | some high =>
              let single := (readString opening (position + 6) (next :: rest)).map
                fun (t, c) => (high :: t, c)
              if high.isHigh && next.val == 0x5C then
                match rest with
                | u :: l1 :: l2 :: l3 :: l4 :: after :: rest =>
                  if u.val = 0x75 then
                    match fourHex? l1 l2 l3 l4 with
                    | none => .error (.unicodeEscape, position + 7)
                    | some low =>
                      if low.isLow then
                        (readString opening (position + 12) (after :: rest)).map
                          fun (t, c) => (joined high low :: t, c)
                      else single
                  else single
                | _ => single
              else single
          | _ => .error (.unicodeEscape, position + 1)
        else match simpleEscape? e with
          | none => .error (.escape, position)
          | some value => (readString opening (position + 2) rest).map fun (t, c) => (value :: t, c)
    else (readString opening (position + 1) rest).map fun (t, cur) => (c :: t, cur)

def digitRun (t : Text) : Text × Text :=
  (t.takeWhile CodePoint.isDigit, t.dropWhile CodePoint.isDigit)

def nearestFloat (negative : Bool) (mantissa : Nat) (exponent : Int) : Float :=
  let size : Int := (Text.ofNat mantissa).length + exponent
  let magnitude : Float :=
    if mantissa = 0 ∨ size < -400 then 0.0
    else if 400 < size then Float.ofScientific 1 false 400
    else if 0 ≤ exponent then Float.ofScientific mantissa false exponent.toNat
    else Float.ofScientific mantissa true exponent.natAbs
  if negative then -magnitude else magnitude

def fractionPart (t : Text) : Option (Text × Text) :=
  match t with
  | c :: rest =>
    let (digits, after) := digitRun rest
    if c.val = 0x2E ∧ digits ≠ [] then some (digits, after) else none
  | [] => none

def exponentPart (t : Text) : Option (Int × Nat × Text) :=
  match t with
  | c :: rest =>
    if c.val = 0x65 ∨ c.val = 0x45 then
      let (negative, signed, rest) := match rest with
        | s :: more =>
          if s.val = 0x2D then (true, 1, more)
          else if s.val = 0x2B then (false, 1, more) else (false, 0, rest)
        | [] => (false, 0, rest)
      let (digits, after) := digitRun rest
      if digits = [] then none
      else
        let n : Int := Text.digitNumber 10 digits
        some (if negative then -n else n, 1 + signed + digits.length, after)
    else none
  | [] => none

def readNumber (cur : Cursor) : Read Json :=
  let negative := match cur.ahead with
    | c :: _ => c.val == 0x2D
    | [] => false
  let t := if negative then cur.ahead.drop 1 else cur.ahead
  let whole := match t with
    | c :: _ => if c.val = 0x30 then [c] else (digitRun t).1
    | [] => []
  if whole = [] then .error (.value, cur.position)
  else
    let after := t.drop whole.length
    let size := (if negative then 1 else 0) + whole.length
    let (digits, size', after') := match fractionPart after with
      | some (ds, rest) => (ds, size + 1 + ds.length, rest)
      | none => ([], size, after)
    let mantissa := Text.digitNumber 10 (whole ++ digits)
    match exponentPart after' with
    | some (e, n, rest) =>
      .ok (float (nearestFloat negative mantissa (e - digits.length)),
        ⟨cur.position + size' + n, rest⟩)
    | none =>
      if digits = [] then
        if digitLimit < whole.length then .error (.digits whole.length, cur.position)
        else
          let n : Int := Text.digitNumber 10 whole
          .ok (int (if negative then -n else n), ⟨cur.position + size', after'⟩)
      else
        .ok (float (nearestFloat negative mantissa (-digits.length)),
          ⟨cur.position + size', after'⟩)

def readAtom (cur : Cursor) : Read Json :=
  let words : List (Text × Json) :=
    [("null", null), ("true", bool true), ("false", bool false), ("NaN", float (0.0 / 0.0)),
     ("Infinity", float (1.0 / 0.0)), ("-Infinity", float (-1.0 / 0.0))]
  match words.findSome? fun (w, v) => (cur.word? w).map fun c => (v, c) with
  | some found => .ok found
  | none => readNumber cur

mutual

def readValue : Nat → Cursor → Read Json
  | 0, cur => .error (.value, cur.position)
  | fuel + 1, cur =>
    match cur.ahead with
    | [] => .error (.value, cur.position)
    | c :: rest =>
      let next : Cursor := ⟨cur.position + 1, rest⟩
      if c.val = 0x22 then
        (readString cur.position next.position rest).map fun (t, cur) => (str t, cur)
      else if c.val = 0x5B then
        let inside := next.skip
        match inside.word? "]" with
        | some done => .ok (arr [], done)
        | none => (readItems fuel inside).map fun (items, cur) => (arr items, cur)
      else if c.val = 0x7B then
        let inside := next.skip
        match inside.word? "\x7d" with
        | some done => .ok (obj [], done)
        | none => (readMembers fuel [] inside).map fun (members, cur) => (obj members, cur)
      else readAtom cur

def readItems : Nat → Cursor → Except (Refusal × Nat) (List Json × Cursor)
  | 0, cur => .error (.value, cur.position)
  | fuel + 1, cur => do
    let (v, cur) ← readValue fuel cur
    let cur := cur.skip
    match cur.word? "]" with
    | some done => return ([v], done)
    | none =>
      match cur.word? "," with
      | none => throw (Refusal.comma, cur.position)
      | some next =>
        let (rest, cur) ← readItems fuel next.skip
        return (v :: rest, cur)

def readMembers : Nat → List (Text × Json) → Cursor →
    Except (Refusal × Nat) (List (Text × Json) × Cursor)
  | 0, _, cur => .error (.key, cur.position)
  | fuel + 1, before, cur => do
    match cur.word? "\"" with
    | none => throw (Refusal.key, cur.position)
    | some inside =>
      let (key, cur) ← readString cur.position inside.position inside.ahead
      let cur := cur.skip
      match cur.word? ":" with
      | none => throw (Refusal.colon, cur.position)
      | some next =>
        let (v, cur) ← readValue fuel next.skip
        let members := put before key v
        let cur := cur.skip
        match cur.word? "\x7d" with
        | some done => return (members, done)
        | none =>
          match cur.word? "," with
          | none => throw (Refusal.comma, cur.position)
          | some next => readMembers fuel members next.skip

end

def place (t : Text) (position : Nat) : Nat × Nat :=
  let before := t.take position
  let lines := Text.cut (CodePoint.ofNat 0x0A) before
  (lines.length, (lines.getLastD []).length + 1)

def ReadFault.at (t : Text) (f : Refusal × Nat) : ReadFault :=
  let (line, column) := place t f.2
  ⟨f.1, f.2, line, column⟩

def read (t : Text) : Except ReadFault Json :=
  if (t.head?.map (·.val)) = some 0xFEFF then .error (.at t (.byteOrderMark, 0))
  else
    match readValue (2 * t.length + 4) (Cursor.skip ⟨0, t⟩) with
    | .error f => .error (.at t f)
    | .ok (v, cur) =>
      let cur := cur.skip
      if cur.ahead.isEmpty then .ok v else .error (.at t (.extra, cur.position))

def Refusal.message : Refusal → Text
  | .byteOrderMark => "Unexpected UTF-8 BOM (decode using utf-8-sig)"
  | .value => "Expecting value"
  | .key => "Expecting property name enclosed in double quotes"
  | .colon => "Expecting \x27:\x27 delimiter"
  | .comma => "Expecting \x27,\x27 delimiter"
  | .extra => "Extra data"
  | .unterminated => "Unterminated string starting at"
  | .control => "Invalid control character at"
  | .escape => "Invalid \\escape"
  | .unicodeEscape => "Invalid \\uXXXX escape"
  | .digits _ => "Too many digits"

def ReadFault.message (f : ReadFault) : Text :=
  f.refusal.message ++ ": line " ++ Text.ofNat f.line ++ " column " ++ Text.ofNat f.column ++
    " (char " ++ Text.ofNat f.position ++ ")"

end Phrasebook.Json
