import Phrasebook.Fault
import Phrasebook.Literal.CharRefNames
import Phrasebook.Text.Basic

/-!
Character references: `&amp;`, `&#44032;`, `&#xAC00;`. A number that names no character gives
U+FFFD or nothing, the numbers 80 to 9F mean the characters of windows-1252, and a name that is not
in the table is read by its longest beginning that is. A decimal number with too many digits is
refused.
-/

namespace Phrasebook.CharRef

def windows1252 : List Nat :=
  [0x20AC, 0x81, 0x201A, 0x0192, 0x201E, 0x2026, 0x2020, 0x2021, 0x02C6, 0x2030, 0x0160, 0x2039,
   0x0152, 0x8D, 0x017D, 0x8F, 0x90, 0x2018, 0x2019, 0x201C, 0x201D, 0x2022, 0x2013, 0x2014,
   0x02DC, 0x2122, 0x0161, 0x203A, 0x0153, 0x9D, 0x017E, 0x0178]

def isInvalid (n : Nat) : Bool :=
  (1 ≤ n && n ≤ 8) || n == 0x0B || (0x0E ≤ n && n ≤ 0x1F) || n == 0x7F ||
  (0xFDD0 ≤ n && n ≤ 0xFDEF) || n % 0x10000 == 0xFFFE || n % 0x10000 == 0xFFFF

def ofNumber (n : Nat) : Text :=
  if n = 0 ∨ (0xD800 ≤ n ∧ n ≤ 0xDFFF) ∨ 0x10FFFF < n then [CodePoint.ofNat 0xFFFD]
  else if 0x80 ≤ n ∧ n ≤ 0x9F then [CodePoint.ofNat (windows1252.getD (n - 0x80) n)]
  else if isInvalid n then []
  else [CodePoint.ofNat n]

def ofName? (name : Text) : Option Text := (table.find? fun e => e.1 == name).map (·.2)

def ofBeginning (name : Text) : Nat → Text
  | 0 => "&" ++ name
  | size + 1 =>
    if size + 1 < 2 then "&" ++ name
    else match ofName? (name.take (size + 1)) with
      | some value => value ++ name.drop (size + 1)
      | none => ofBeginning name size

def ofNameText (name : Text) : Text :=
  match ofName? name with
  | some value => value
  | none => ofBeginning name (name.length - 1)

def closing (rest : Text) : Nat :=
  match rest with
  | c :: _ => if c.val = 0x3B then 1 else 0
  | [] => 0

def inName (c : CodePoint) : Bool :=
  !(c.val == 0x09 || c.val == 0x0A || c.val == 0x0C || c.val == 0x20 || c.val == 0x3C ||
    c.val == 0x26 || c.val == 0x23 || c.val == 0x3B)

def ofDecimal (digits : Text) : Except Fault Text :=
  if digitLimit < digits.length then .error (.tooManyDigits digits.length)
  else .ok (ofNumber (Text.digitNumber 10 digits))

/-- A reference at the front of a text: what it refers to, and its size there. -/
structure Reading where
  value : Text
  size : Nat

def numeric? (t : Text) : Except Fault (Option Reading) :=
  let decimal := t.takeWhile CodePoint.isDigit
  if !decimal.isEmpty then do
    let value ← ofDecimal decimal
    return some ⟨value, decimal.length + closing (t.drop decimal.length)⟩
  else match t with
    | x :: rest =>
      let digits := rest.takeWhile CodePoint.isHex
      if (x.val == 0x78 || x.val == 0x58) && !digits.isEmpty then
        .ok (some ⟨ofNumber (Text.hexNumber digits),
          1 + digits.length + closing (rest.drop digits.length)⟩)
      else .ok none
    | [] => .ok none

def reference? (t : Text) : Except Fault (Option Reading) :=
  match t with
  | c :: rest =>
    if c.val = 0x23 then do
      return (← numeric? rest).map fun r => { r with size := r.size + 1 }
    else
      let name := (t.take 32).takeWhile inName
      if name.isEmpty then .ok none
      else
        let size := name.length + closing (t.drop name.length)
        .ok (some ⟨ofNameText (t.take size), size⟩)
  | [] => .ok none

def decodeFrom : Nat → Text → Except Fault Text
  | _, [] => .ok []
  | skip + 1, _ :: rest => decodeFrom skip rest
  | 0, c :: rest =>
    if c.val = 0x26 then do
      match ← reference? rest with
      | some r => return r.value ++ (← decodeFrom r.size rest)
      | none => return c :: (← decodeFrom 0 rest)
    else (decodeFrom 0 rest).map (c :: ·)

def decode (t : Text) : Except Fault Text := decodeFrom 0 t

end Phrasebook.CharRef
