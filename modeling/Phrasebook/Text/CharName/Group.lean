import Phrasebook.Text.Basic

/-!
Names of characters in a short form. The names of a group begin with the same word and are given in
the order of their characters. Each says how many characters are passed over before it, in decimal
digits and only if there are any; then, by a letter of which `a` means none, how many words it has
in common with the name before; then the words that follow. Commas stand between names.
-/

namespace Phrasebook.CharName

/-- Names that begin with the same word, in the short form and without that word. -/
structure NameGroup where
  first : String
  entries : List String

/-- A name in the short form. -/
structure NameEntry where
  /-- How many characters are passed over before it. -/
  skipped : Nat
  /-- How many words it shares with the name before. -/
  shared : Nat
  words : List Text

/-- The words of a text; an empty one has none. -/
def wordsOf (t : Text) : List Text :=
  if t.isEmpty then [] else Text.cut (CodePoint.ofChar ' ') t

def NameEntry.ofText (t : Text) : NameEntry :=
  let digits := t.takeWhile CodePoint.isDigit
  let rest := t.drop digits.length
  { skipped := Text.digitNumber 10 digits
    shared := (rest.head?.map (·.val)).getD 0x61 - 0x61
    words := wordsOf (rest.drop 1) }

/-- The names of a list of lines. -/
def NameEntry.ofLines (lines : List String) : List NameEntry :=
  lines.flatMap fun s => (Text.cut (CodePoint.ofChar ',') (Text.ofString s)).map ofText

/-- The character whose name has the given words, among entries of which the first that is not
passed over is `next`, and `before` are the words of the name before. -/
def findFrom (wanted before : List Text) (next : Nat) : List NameEntry → Option Nat
  | [] => none
  | e :: rest =>
    let all := before.take e.shared ++ e.words
    let n := next + e.skipped
    if all = wanted then some n else findFrom wanted all (n + 1) rest

end Phrasebook.CharName
