/-!
Texts are lists of code points. A code point may be a surrogate, because a string literal can spell
one on its own; such a text has no UTF-8 form. The operations here are the ones every other module
uses: trimming, cutting, searching, comparing.
-/

namespace Phrasebook

def takeTo {α : Type} (n : Int) (xs : List α) : List α :=
  if n < 0 then xs.take (xs.length - n.natAbs) else xs.take n.toNat

structure CodePoint where
  val : Nat
  isLt : val < 0x110000
deriving DecidableEq

namespace CodePoint

def ofNat (n : Nat) : CodePoint :=
  if h : n < 0x110000 then ⟨n, h⟩ else ⟨0xFFFD, by decide⟩

theorem toNat_char_lt (c : Char) : c.toNat < 0x110000 := by
  have h := c.valid
  simp only [UInt32.isValidChar, Nat.isValidChar] at h
  simp only [Char.toNat]
  omega

def ofChar (c : Char) : CodePoint := ⟨c.toNat, toNat_char_lt c⟩

instance : Coe Char CodePoint := ⟨ofChar⟩

instance : Inhabited CodePoint := ⟨ofNat 0⟩

def isHigh (c : CodePoint) : Bool := 0xD800 ≤ c.val && c.val ≤ 0xDBFF

def isLow (c : CodePoint) : Bool := 0xDC00 ≤ c.val && c.val ≤ 0xDFFF

def isSurrogate (c : CodePoint) : Bool := 0xD800 ≤ c.val && c.val ≤ 0xDFFF

/-- Blank characters: the ASCII controls that separate, the space, and the Unicode spaces and
separators. The zero-width ones (180E, 200B, FEFF) are not blank. -/
def isBlank (c : CodePoint) : Bool :=
  (0x09 ≤ c.val && c.val ≤ 0x0D) || (0x1C ≤ c.val && c.val ≤ 0x20) || c.val == 0x85 ||
  c.val == 0xA0 || c.val == 0x1680 || (0x2000 ≤ c.val && c.val ≤ 0x200A) || c.val == 0x2028 ||
  c.val == 0x2029 || c.val == 0x202F || c.val == 0x205F || c.val == 0x3000

def isDigit (c : CodePoint) : Bool := 0x30 ≤ c.val && c.val ≤ 0x39

def isUpperLatin (c : CodePoint) : Bool := 0x41 ≤ c.val && c.val ≤ 0x5A

def hexValue? (c : CodePoint) : Option Nat :=
  if 0x30 ≤ c.val && c.val ≤ 0x39 then some (c.val - 0x30)
  else if 0x41 ≤ c.val && c.val ≤ 0x46 then some (c.val - 0x37)
  else if 0x61 ≤ c.val && c.val ≤ 0x66 then some (c.val - 0x57)
  else none

def isHex (c : CodePoint) : Bool := c.hexValue?.isSome

def toUpperLatin (c : CodePoint) : CodePoint :=
  if 0x61 ≤ c.val && c.val ≤ 0x7A then ofNat (c.val - 0x20) else c

def toLowerLatin (c : CodePoint) : CodePoint :=
  if 0x41 ≤ c.val && c.val ≤ 0x5A then ofNat (c.val + 0x20) else c

end CodePoint

abbrev Text := List CodePoint

namespace Text

def ofString (s : String) : Text := s.toList.map CodePoint.ofChar

instance : Coe String (List CodePoint) := ⟨ofString⟩

def toString? (t : Text) : Option String :=
  let char? (c : CodePoint) := if c.isSurrogate then none else some (Char.ofNat c.val)
  (t.mapM char?).map String.ofList

def trimLeft (t : Text) : Text := t.dropWhile CodePoint.isBlank

def trimRight (t : Text) : Text := (t.reverse.dropWhile CodePoint.isBlank).reverse

def trim (t : Text) : Text := trimRight (trimLeft t)

def isBlank (t : Text) : Bool := t.all CodePoint.isBlank

def startsWith (t lead : Text) : Bool := lead.isPrefixOf t

def endsWith (t tail : Text) : Bool := tail.isSuffixOf t

def hasInfix (part : Text) : Text → Bool
  | [] => part.isEmpty
  | c :: rest => part.isPrefixOf (c :: rest) || hasInfix part rest

def cut (sep : CodePoint) : Text → List Text
  | [] => [[]]
  | c :: rest =>
    if c = sep then [] :: cut sep rest
    else match cut sep rest with
      | [] => [[c]]
      | piece :: pieces => (c :: piece) :: pieces

def join (sep : Text) (pieces : List Text) : Text := sep.intercalate pieces

def foldCrLf : Text → Text
  | [] => []
  | c :: rest =>
    match rest with
    | d :: _ => if c.val = 0x0D ∧ d.val = 0x0A then foldCrLf rest else c :: foldCrLf rest
    | [] => [c]

def foldLineEnds (t : Text) : Text :=
  (foldCrLf t).map fun c => if c.val = 0x0D then CodePoint.ofNat 0x0A else c

def le : Text → Text → Bool
  | [], _ => true
  | _ :: _, [] => false
  | a :: as, b :: bs => a.val < b.val || (a.val == b.val && le as bs)

def inner (n : Nat) (t : Text) : Text := (t.drop n).take (t.length - 2 * n)

def toUpperLatin (t : Text) : Text := t.map CodePoint.toUpperLatin

def toLowerLatin (t : Text) : Text := t.map CodePoint.toLowerLatin

def ofDigits (base : Nat) (digits : List Nat) : Nat :=
  digits.foldl (fun n d => n * base + d) 0

def hexNumber (t : Text) : Nat := ofDigits 16 (t.map fun c => c.hexValue?.getD 0)

def digitNumber (base : Nat) (t : Text) : Nat := ofDigits base (t.map fun c => c.val - 0x30)

def ofNat (n : Nat) : Text := ofString (String.ofList (Nat.toDigits 10 n))

def ofInt (n : Int) : Text :=
  if n < 0 then CodePoint.ofChar '-' :: ofNat n.natAbs else ofNat n.natAbs

def hex (width n : Nat) : Text :=
  let digits := ofString (String.ofList (Nat.toDigits 16 n))
  List.replicate (width - digits.length) (CodePoint.ofChar '0') ++ digits

end Text
end Phrasebook

/-!
Names that settings give to things in code. Such a name is meant to be a text, but any value can
stand in its place: it is then shown in emitted code, and it is the name of nothing.
-/

namespace Phrasebook

inductive Word
  | text (name : Text)
  | absent
  | other (shown : Text)
deriving DecidableEq

namespace Word

instance : Coe (List CodePoint) Word := ⟨text⟩

def spelling : Word → Text
  | text name => name
  | absent => "None"
  | other shown => shown

def names (w : Word) (t : Text) : Bool := w == text t

def agrees (w : Word) : Option Text → Bool
  | some t => w == text t
  | none => w == absent

end Word
end Phrasebook

/-!
Decimal digits of all scripts, and the whole numbers that they spell.
-/

namespace Phrasebook

def digitZeros : List Nat :=
  [0x0030, 0x0660, 0x06F0, 0x07C0, 0x0966, 0x09E6, 0x0A66, 0x0AE6, 0x0B66, 0x0BE6, 0x0C66,
   0x0CE6, 0x0D66, 0x0DE6, 0x0E50, 0x0ED0, 0x0F20, 0x1040, 0x1090, 0x17E0, 0x1810, 0x1946,
   0x19D0, 0x1A80, 0x1A90, 0x1B50, 0x1BB0, 0x1C40, 0x1C50, 0xA620, 0xA8D0, 0xA900, 0xA9D0,
   0xA9F0, 0xAA50, 0xABF0, 0xFF10, 0x104A0, 0x10D30, 0x11066, 0x110F0, 0x11136, 0x111D0, 0x112F0,
   0x11450, 0x114D0, 0x11650, 0x116C0, 0x11730, 0x118E0, 0x11950, 0x11C50, 0x11D50, 0x11DA0,
   0x16A60, 0x16AC0, 0x16B50, 0x1D7CE, 0x1D7D8, 0x1D7E2, 0x1D7EC, 0x1D7F6, 0x1E140, 0x1E2F0,
   0x1E950, 0x1FBF0]

def CodePoint.digitValue? (c : CodePoint) : Option Nat :=
  (digitZeros.find? fun z => z ≤ c.val && c.val < z + 10).map fun z => c.val - z

def digitLimit : Nat := 4300

def Text.digitsNumber? (t : Text) : Option Nat :=
  let groups := Text.cut (CodePoint.ofChar '_') t
  if groups.any List.isEmpty || digitLimit < groups.flatten.length then none
  else (groups.flatten.mapM CodePoint.digitValue?).map (Text.ofDigits 10)

/-- The whole number that a text spells, with a sign or without, blanks around it apart. -/
def Text.toInt? (t : Text) : Option Int :=
  match Text.trim t with
  | [] => none
  | c :: rest =>
    if c.val = 0x2D then (Text.digitsNumber? rest).map fun n => -(n : Int)
    else if c.val = 0x2B then (Text.digitsNumber? rest).map fun n => (n : Int)
    else (Text.digitsNumber? (c :: rest)).map fun n => (n : Int)

end Phrasebook
