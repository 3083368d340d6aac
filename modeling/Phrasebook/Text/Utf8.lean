import Phrasebook.Text.Basic

/-!
The UTF-8 form of a text. Encoding fails on a surrogate. Decoding reads octet by octet and, when it
refuses, says where the bad sequence starts, how many octets it has, and why.
-/

namespace Phrasebook

abbrev Bytes := List UInt8

namespace Bytes

/-- The octets from one offset to another; no start means the beginning, no stop means the end. -/
def slice (bytes : Bytes) (start stop : Option Nat) : Bytes :=
  (match stop with
   | some b => bytes.take b
   | none => bytes).drop (start.getD 0)

end Bytes

namespace Utf8

def encodePoint (c : CodePoint) : Option Bytes :=
  let n := c.val
  if n < 0x80 then some [n.toUInt8]
  else if n < 0x800 then some [(0xC0 + n / 0x40).toUInt8, (0x80 + n % 0x40).toUInt8]
  else if c.isSurrogate then none
  else if n < 0x10000 then
    some [(0xE0 + n / 0x1000).toUInt8, (0x80 + n / 0x40 % 0x40).toUInt8, (0x80 + n % 0x40).toUInt8]
  else
    some [(0xF0 + n / 0x40000).toUInt8, (0x80 + n / 0x1000 % 0x40).toUInt8,
      (0x80 + n / 0x40 % 0x40).toUInt8, (0x80 + n % 0x40).toUInt8]

def encode? : Text → Option Bytes
  | [] => some []
  | c :: rest =>
    match encodePoint c, encode? rest with
    | some bytes, some more => some (bytes ++ more)
    | _, _ => none

inductive Refusal
  | invalidStart
  | invalidContinuation
  | unexpectedEnd
deriving DecidableEq

/-- A refused sequence: its first octet, its offset and its length. -/
structure DecodeFault where
  first : UInt8
  start : Nat
  length : Nat
  refusal : Refusal
deriving DecidableEq

/-- A sequence begun and not yet complete: how many octets are still due, the bounds of the next
one, and the value so far. -/
structure Pending where
  first : UInt8
  start : Nat
  seen : Nat
  due : Nat
  low : UInt8
  high : UInt8
  value : Nat

/-- The sequence that a first octet opens at an offset. The bounds of the second octet shut out
overlong forms, surrogates and numbers past the last code point. -/
def Pending.open? (b : UInt8) (start : Nat) : Option Pending :=
  if 0xC2 ≤ b ∧ b ≤ 0xDF then some ⟨b, start, 1, 1, 0x80, 0xBF, b.toNat - 0xC0⟩
  else if 0xE0 ≤ b ∧ b ≤ 0xEF then
    some ⟨b, start, 1, 2, if b = 0xE0 then 0xA0 else 0x80, if b = 0xED then 0x9F else 0xBF,
      b.toNat - 0xE0⟩
  else if 0xF0 ≤ b ∧ b ≤ 0xF4 then
    some ⟨b, start, 1, 3, if b = 0xF0 then 0x90 else 0x80, if b = 0xF4 then 0x8F else 0xBF,
      b.toNat - 0xF0⟩
  else none

def decodeFrom : Nat → Option Pending → Bytes → Except DecodeFault Text
  | _, none, [] => .ok []
  | _, some p, [] => .error ⟨p.first, p.start, p.seen, .unexpectedEnd⟩
  | pos, none, b :: rest =>
    if b < 0x80 then (decodeFrom (pos + 1) none rest).map (CodePoint.ofNat b.toNat :: ·)
    else match Pending.open? b pos with
      | none => .error ⟨b, pos, 1, .invalidStart⟩
      | some p => decodeFrom (pos + 1) (some p) rest
  | pos, some p, b :: rest =>
    if p.low ≤ b ∧ b ≤ p.high then
      let value := p.value * 0x40 + (b.toNat - 0x80)
      if p.due ≤ 1 then (decodeFrom (pos + 1) none rest).map (CodePoint.ofNat value :: ·)
      else
        let next : Pending :=
          { p with seen := p.seen + 1, due := p.due - 1, low := 0x80, high := 0xBF, value }
        decodeFrom (pos + 1) (some next) rest
    else .error ⟨p.first, p.start, p.seen, .invalidContinuation⟩

def decode (bytes : Bytes) : Except DecodeFault Text := decodeFrom 0 none bytes

example : decode [0xEA, 0xB0, 0x80] = .ok [CodePoint.ofNat 0xAC00] := by cbv

def decodeD (bytes : Bytes) : Text :=
  match decode bytes with
  | .ok t => t
  | .error _ => []

def Refusal.message : Refusal → Text
  | .invalidStart => "invalid start byte"
  | .invalidContinuation => "invalid continuation byte"
  | .unexpectedEnd => "unexpected end of data"

def DecodeFault.message (f : DecodeFault) : Text :=
  let place : Text :=
    if f.length = 1 then
      "byte 0x" ++ Text.hex 2 f.first.toNat ++ " in position " ++ Text.ofNat f.start
    else
      "bytes in position " ++ Text.ofNat f.start ++ "-" ++ Text.ofNat (f.start + f.length - 1)
  "\x27utf-8\x27 codec can\x27t decode " ++ place ++ ": " ++ f.refusal.message

end Utf8
end Phrasebook

/-!
Texts seen as UTF-16 code units: a code point past FFFF is a pair of surrogates.
-/

namespace Phrasebook.Utf16

def unitsOf (c : CodePoint) : List Nat :=
  if c.val < 0x10000 then [c.val]
  else [0xD800 + (c.val - 0x10000) / 0x400, 0xDC00 + (c.val - 0x10000) % 0x400]

def units (t : Text) : List Nat := t.flatMap unitsOf

def pair (high low : CodePoint) : CodePoint :=
  CodePoint.ofNat (0x10000 + (high.val - 0xD800) * 0x400 + (low.val - 0xDC00))

/-- Every high surrogate before a low one joined with it; none when a surrogate stays alone. -/
def join? : Text → Option Text
  | [] => some []
  | c :: rest =>
    if c.isHigh then
      match rest with
      | d :: rest' => if d.isLow then (join? rest').map (pair c d :: ·) else none
      | [] => none
    else if c.isLow then none
    else (join? rest).map (c :: ·)

def joinPairs (t : Text) : Text := (join? t).getD t

end Phrasebook.Utf16
