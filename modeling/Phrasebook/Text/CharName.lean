import Phrasebook.Text.CharName.AToB
import Phrasebook.Text.CharName.C
import Phrasebook.Text.CharName.DToG
import Phrasebook.Text.CharName.HToL
import Phrasebook.Text.CharName.MToO
import Phrasebook.Text.CharName.PToS
import Phrasebook.Text.CharName.Singular
import Phrasebook.Text.CharName.TToZ

/-!
Characters by name. Hangul syllables are named for their letters, ideographs by their number, some
others by their place in a series; the rest is in tables. Case counts only in the names of Hangul
syllables and unified ideographs.
-/

namespace Phrasebook.CharName

def initials : List String :=
  ["G", "GG", "N", "D", "DD", "R", "M", "B", "BB", "S", "SS", "", "J", "JJ", "C", "K", "T", "P",
   "H"]

def vowels : List String :=
  ["A", "AE", "YA", "YAE", "EO", "E", "YEO", "YE", "O", "WA", "WAE", "OE", "YO", "U", "WEO", "WE",
   "WI", "YU", "EU", "YI", "I"]

def finals : List String :=
  ["", "G", "GG", "GS", "N", "NJ", "NH", "D", "L", "LG", "LM", "LB", "LS", "LT", "LP", "LH", "M",
   "B", "BS", "S", "SS", "NG", "J", "C", "K", "T", "P", "H"]

def longest (names : List String) (t : Text) : Option (Nat × Text) :=
  (names.zipIdx.foldl (fun (best : Option (Nat × Text)) (name, i) =>
    let n := Text.ofString name
    if t.startsWith n && best.all (fun b => b.2.length < n.length) then some (i, n) else best)
    none)

def syllable? (t : Text) : Option Nat := do
  let (i, initial) ← longest initials t
  let t := t.drop initial.length
  let (v, vowel) ← longest vowels t
  let t := t.drop vowel.length
  let (f, final) ← longest finals t
  if t.length = final.length then some (0xAC00 + (i * 21 + v) * 28 + f) else none

def ideographRuns : List (Nat × Nat) :=
  [(0x3400, 0x4DBF), (0x4E00, 0x9FFF), (0x20000, 0x2A6DF), (0x2A700, 0x2B738), (0x2B740, 0x2B81D),
   (0x2B820, 0x2CEA1), (0x2CEB0, 0x2EBE0), (0x30000, 0x3134A)]

/-- The ideograph whose number a text spells in four or five capital hexadecimal digits. -/
def ideograph? (t : Text) : Option Nat :=
  let capital (c : CodePoint) : Bool := c.isDigit || (0x41 ≤ c.val && c.val ≤ 0x46)
  let n := Text.hexNumber t
  if (t.length = 4 ∨ t.length = 5) ∧ t.all capital ∧
      ideographRuns.any (fun (first, last) => first ≤ n && n ≤ last) then some n
  else none

inductive Numbering
  /-- By the number of the character, in four or more hexadecimal digits. -/
  | byCharacter
  | counted (start size : Nat)

/-- Characters with names that differ in a number only. -/
structure Series where
  stem : String
  first : Nat
  last : Nat
  numbering : Numbering

def allSeries : List Series :=
  [⟨"CJK COMPATIBILITY IDEOGRAPH-", 0xF900, 0xFA6D, .byCharacter⟩,
   ⟨"CJK COMPATIBILITY IDEOGRAPH-", 0xFA70, 0xFAD9, .byCharacter⟩,
   ⟨"CJK COMPATIBILITY IDEOGRAPH-", 0x2F800, 0x2FA1D, .byCharacter⟩,
   ⟨"KHITAN SMALL SCRIPT CHARACTER-", 0x18B00, 0x18CD5, .byCharacter⟩,
   ⟨"NUSHU CHARACTER-", 0x1B170, 0x1B2FB, .byCharacter⟩,
   ⟨"TANGUT COMPONENT-", 0x18800, 0x18AFF, .counted 1 3⟩,
   ⟨"VARIATION SELECTOR-", 0xFE00, 0xFE0F, .counted 1 1⟩,
   ⟨"VARIATION SELECTOR-", 0xE0100, 0xE01EF, .counted 17 1⟩,
   ⟨"VS", 0xFE00, 0xFE0F, .counted 1 1⟩,
   ⟨"VS", 0xE0100, 0xE01EF, .counted 17 1⟩]

namespace Series

def padded (size : Nat) (digits : Text) : Text :=
  List.replicate (size - digits.length) (CodePoint.ofChar '0') ++ digits

def number (s : Series) (n : Nat) : Text :=
  match s.numbering with
  | .byCharacter => padded 4 (Text.toUpperLatin (String.ofList (Nat.toDigits 16 n)))
  | .counted start size => padded size (Text.ofNat (n - s.first + start))

def find? (s : Series) (digits : Text) : Option Nat :=
  let n := match s.numbering with
    | .byCharacter => Text.hexNumber digits
    | .counted start _ => Text.digitNumber 10 digits + s.first - start
  if s.first ≤ n ∧ n ≤ s.last ∧ s.number n = digits then some n else none

end Series

def groups : List NameGroup :=
  [namesA, namesB, namesC, namesD, namesE, namesF, namesG, namesH, namesI,
   namesJ, namesK, namesL, namesM, namesN, namesO, namesP, namesQ, namesR,
   namesS, namesT, namesU, namesV, namesW, namesX, namesY, namesZ].flatten

def alias? (name : Text) : Option Nat :=
  let entries := aliases.flatMap fun s => Text.cut (CodePoint.ofChar ',') (Text.ofString s)
  entries.findSome? fun e =>
    match Text.cut (CodePoint.ofChar '=') e with
    | [n, number] => if n = name then some (Text.hexNumber number) else none
    | _ => none

def listed? (name : Text) : Option Nat :=
  let wanted := wordsOf name
  let first := wanted.headD []
  match groups.find? fun g => Text.ofString g.first == first with
  | some g => findFrom wanted.tail [] 0 (NameEntry.ofLines g.entries)
  | none => findFrom wanted [] 0 (NameEntry.ofLines singular)

def inSeries? (name : Text) : Option Nat :=
  allSeries.findSome? fun s =>
    let stem := Text.ofString s.stem
    if name.startsWith stem then s.find? (name.drop stem.length) else none

def find? (name : Text) : Option Nat :=
  let hangul : Text := "HANGUL SYLLABLE "
  let ideograph : Text := "CJK UNIFIED IDEOGRAPH-"
  if name.startsWith hangul then syllable? (name.drop hangul.length)
  else if name.startsWith ideograph then ideograph? (name.drop ideograph.length)
  else
    let name := Text.toUpperLatin name
    inSeries? name <|> listed? name <|> alias? name

end Phrasebook.CharName
