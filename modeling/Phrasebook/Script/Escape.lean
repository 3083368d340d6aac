import Phrasebook.Script.Source
import Phrasebook.Text.CharName

/-!
Escapes in patterns. What a backslash with a character stands for depends on whether it is inside
a set of characters.
-/

namespace Phrasebook.PatternReader

def control? (letter : Nat) : Option Nat :=
  match letter with
  | 0x61 => some 0x07
  | 0x62 => some 0x08
  | 0x66 => some 0x0C
  | 0x6E => some 0x0A
  | 0x72 => some 0x0D
  | 0x74 => some 0x09
  | 0x76 => some 0x0B
  | _ => none

def kind? (letter : Nat) : Option Member :=
  match letter with
  | 0x64 => some (.kind .digit false)
  | 0x44 => some (.kind .digit true)
  | 0x73 => some (.kind .blank false)
  | 0x53 => some (.kind .blank true)
  | 0x77 => some (.kind .word false)
  | 0x57 => some (.kind .word true)
  | _ => none

def sign? (letter : Nat) : Option AnchorSign :=
  match letter with
  | 0x41 => some .textStart
  | 0x62 => some .edge
  | 0x42 => some .noEdge
  | 0x5A => some .textEnd
  | _ => none

def isOctal (c : CodePoint) : Bool := 0x30 ≤ c.val && c.val ≤ 0x37

def isLatinLetter (n : Nat) : Bool := (0x41 ≤ n && n ≤ 0x5A) || (0x61 ≤ n && n ≤ 0x7A)

def numberLimit : Nat := 0x80000000

def byNumber (escape : Text) (size : Nat) : PatternReader Nat := do
  let digits ← takeWhile CodePoint.isHex size
  let spelled := escape ++ digits
  if digits.length ≠ size then refuse ("incomplete escape " ++ spelled) spelled.length
  else
    let n := Text.hexNumber digits
    if numberLimit ≤ n then throw .tooLarge
    else if 0x10FFFF < n then refuse ("bad escape " ++ spelled) spelled.length
    else return n

def byName : PatternReader Nat := do
  if !(← accept '\x7b') then refuse "missing \x7b"
  let name ← takeUntil '\x7d' "character name"
  if name.any CodePoint.isSurrogate then refuse "bad escape \\N" 2
  match CharName.find? name with
  | some n => return n
  | none => refuse ("undefined character name " ++ Text.quoted name) (name.length + 4)

def octal (spelled : Text) : PatternReader Nat := do
  let n := Text.digitNumber 8 (spelled.drop 1)
  if 0xFF < n then
    refuse ("octal escape value " ++ spelled ++ " outside of range 0-0o377") spelled.length
  else return n

def plain (escape : Text) (letter : Nat) : PatternReader Nat :=
  if isLatinLetter letter then refuse ("bad escape " ++ escape) escape.length else return letter

def setEscape (escape : Text) : PatternReader Member := do
  let letter := ((escape.drop 1).head?.map (·.val)).getD 0
  match control? letter, kind? letter with
  | some n, _ => return .point n
  | none, some member => return member
  | none, none =>
    if letter = 0x78 then return .point (← byNumber escape 2)
    else if letter = 0x75 then return .point (← byNumber escape 4)
    else if letter = 0x55 then return .point (← byNumber escape 8)
    else if letter = 0x4E then return .point (← byName)
    else if 0x30 ≤ letter ∧ letter ≤ 0x37 then
      let more ← takeWhile isOctal 2
      return .point (← octal (escape ++ more))
    else if letter = 0x38 ∨ letter = 0x39 then refuse ("bad escape " ++ escape) escape.length
    else return .point (← plain escape letter)

def checkBehind (group : Nat) : PatternReader Unit := do
  let d ← get
  match d.behind with
  | none => return
  | some limit =>
    if (d.closed? group).isNone then refuse "cannot refer to an open group"
    else if limit ≤ group then
      refuse "cannot refer to group defined in the same lookbehind subpattern"
    else return

def digits (escape : Text) : PatternReader Atom := do
  let more ← takeWhile CodePoint.isDigit 1
  let spelled := escape ++ more
  let third ← if more.length = 1 ∧ (spelled.drop 1).all isOctal then takeWhile isOctal 1 else pure []
  if third.isEmpty then
    let group := Text.digitNumber 10 (spelled.drop 1)
    let d ← get
    if group < d.groups then
      if (d.closed? group).isNone then refuse "cannot refer to an open group" spelled.length
      checkBehind group
      return .again group
    else refuse ("invalid group reference " ++ Text.ofNat group) (spelled.length - 1)
  else return .point (← octal (spelled ++ third))

def escape (escape : Text) : PatternReader Atom := do
  let letter := ((escape.drop 1).head?.map (·.val)).getD 0
  match sign? letter, kind? letter, control? letter with
  | some sign, _, _ => return .anchor sign
  | none, some member, _ => return .set false [member]
  | none, none, some n => return .point n
  | none, none, none =>
    if letter = 0x78 then return .point (← byNumber escape 2)
    else if letter = 0x75 then return .point (← byNumber escape 4)
    else if letter = 0x55 then return .point (← byNumber escape 8)
    else if letter = 0x4E then return .point (← byName)
    else if letter = 0x30 then
      let more ← takeWhile isOctal 2
      return .point (Text.digitNumber 8 more)
    else if 0x31 ≤ letter ∧ letter ≤ 0x39 then digits escape
    else return .point (← plain escape letter)

end Phrasebook.PatternReader
