import Phrasebook.Fault
import Phrasebook.Text.Utf8

/-!
Escapes of quoted strings and templates: `decode` gives the value of what stands between the
delimiters, `encode` a double-quoted literal for a value.
-/

namespace Phrasebook.Escape

/-- What an escape stands for, and how many code points after the backslash it takes. -/
structure Reading where
  value : Text
  size : Nat

def point (n : Nat) : Except Fault Text :=
  if h : n < 0x110000 then .ok [⟨n, h⟩]
  else if n < 0x80000000 then .error .codePointRange
  else .error .overflow

def control? (c : CodePoint) : Option CodePoint :=
  if c.val = 0x6E then some (CodePoint.ofNat 0x0A)
  else if c.val = 0x74 then some (CodePoint.ofNat 0x09)
  else if c.val = 0x72 then some (CodePoint.ofNat 0x0D)
  else if c.val = 0x62 then some (CodePoint.ofNat 0x08)
  else if c.val = 0x66 then some (CodePoint.ofNat 0x0C)
  else if c.val = 0x76 then some (CodePoint.ofNat 0x0B)
  else none

def isLineEnd (c : CodePoint) : Bool :=
  c.val == 0x0A || c.val == 0x0D || c.val == 0x2028 || c.val == 0x2029

def isOctal (c : CodePoint) : Bool := 0x30 ≤ c.val && c.val ≤ 0x37

def bracedHex? (t : Text) : Option Text :=
  match t with
  | [] => none
  | c :: rest =>
    let digits := rest.takeWhile CodePoint.isHex
    let closed := (rest.dropWhile CodePoint.isHex).head?.any fun d => d.val == 0x7D
    if c.val == 0x7B && !digits.isEmpty && closed then some digits else none

def exactHex? (n : Nat) (t : Text) : Option Text :=
  let digits := t.take n
  if digits.length = n ∧ digits.all CodePoint.isHex then some digits else none

/-- The escape whose first code point after the backslash is `c`, with `rest` behind it. -/
def reading (c : CodePoint) (rest : Text) : Except Fault Reading :=
  let itself : Except Fault Reading := .ok ⟨[c], 1⟩
  if c.val = 0x75 then
    match bracedHex? rest, exactHex? 4 rest with
    | some digits, _ => (point (Text.hexNumber digits)).map (⟨·, digits.length + 3⟩)
    | none, some digits => (point (Text.hexNumber digits)).map (⟨·, 5⟩)
    | none, none => itself
  else if c.val = 0x78 then
    match exactHex? 2 rest with
    | some digits => (point (Text.hexNumber digits)).map (⟨·, 3⟩)
    | none => itself
  else if isOctal c then
    let digits := c :: (rest.take 2).takeWhile isOctal
    (point (Text.digitNumber 8 digits)).map (⟨·, digits.length⟩)
  else if c.val = 0x0D ∧ rest.head?.any (fun d => d.val == 0x0A) then .ok ⟨[], 2⟩
  else if isLineEnd c then .ok ⟨[], 1⟩
  else match control? c with
    | some value => .ok ⟨[value], 1⟩
    | none => itself

/-- Every escape replaced, after `skip` code points that an escape already took. A backslash at
the very end stays. -/
def unescapeFrom : Nat → Text → Except Fault Text
  | _, [] => .ok []
  | skip + 1, _ :: rest => unescapeFrom skip rest
  | 0, c :: rest =>
    match rest with
    | [] => .ok [c]
    | d :: after =>
      if c.val = 0x5C then do
        let r ← reading d after
        let more ← unescapeFrom r.size rest
        return r.value ++ more
      else (unescapeFrom 0 rest).map (c :: ·)

/-- The value of a string or template text: line ends are folded, escapes replaced, and pairs of
surrogates joined when none stays alone. -/
def decode (raw : Text) : Except Fault Text :=
  (unescapeFrom 0 (Text.foldCrLf raw)).map Utf16.joinPairs

def encodeChar (c : CodePoint) : Text :=
  if c.isSurrogate then "\\u" ++ Text.hex 4 c.val else Json.escapeChar c

def encode (value : Text) : Text := "\"" ++ value.flatMap encodeChar ++ "\""

def encodeValue : Json → Text
  | .str t => encode t
  | v => v.spaced.flatMap fun c => if c.isSurrogate then encodeChar c else [c]

end Phrasebook.Escape
