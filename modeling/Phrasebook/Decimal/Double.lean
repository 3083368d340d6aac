import Phrasebook.Text.Basic

/-!
A double-precision number as an exact multiple of a power of two, and the ways it is written. With the
fewest decimal digits that read back as it: positional from 10⁻⁴ to below 10¹⁶, with an exponent of at
least two digits elsewhere. Or with a fixed number of decimal places: the exact value is rounded, a half
goes to the even neighbour, and the sign of a negative number stays even when only zeros remain.
-/

namespace Phrasebook.Decimal

structure Binary where
  negative : Bool
  mantissa : Nat
  exponent : Int

/-- A double: not a number, an infinity, or an exact binary number. -/
inductive Double
  | nan
  | infinite (negative : Bool)
  | finite (value : Binary)

def Double.ofBits (bits : Nat) : Double :=
  let negative := bits / 0x8000000000000000 % 2 == 1
  let field : Nat := bits / 0x10000000000000 % 0x800
  let fraction : Nat := bits % 0x10000000000000
  if field = 2047 then if fraction = 0 then .infinite negative else .nan
  else if field = 0 then .finite ⟨negative, fraction, -1074⟩
  else .finite ⟨negative, fraction + 0x10000000000000, (field : Int) - 1075⟩

def Double.ofFloat (x : Float) : Double := .ofBits x.toBits.toNat

def Binary.fraction (b : Binary) : Nat × Nat :=
  if 0 ≤ b.exponent then (b.mantissa * Nat.pow 2 b.exponent.toNat, 1)
  else (b.mantissa, Nat.pow 2 (-b.exponent).toNat)

def roundDiv (num den : Nat) : Nat :=
  let q := num / den
  let r := num % den
  if 2 * r < den then q else if den < 2 * r then q + 1 else if q % 2 = 0 then q else q + 1

structure Digits where
  digits : List Nat
  point : Int

def digitsOf (n : Nat) : List Nat :=
  if n = 0 then [] else (Nat.toDigits 10 n).map fun c => c.toNat - 48

def dropTrailingZeros (ds : List Nat) : List Nat := (ds.reverse.dropWhile (· == 0)).reverse

def liftExponent (num den : Nat) : Nat → Nat → Nat
  | start, 0 => start
  | start, fuel + 1 =>
    if den ≤ num * Nat.pow 10 start then start else liftExponent num den (start + 1) fuel

def decimalPoint (num den : Nat) : Int :=
  if den ≤ num then ((digitsOf (num / den)).length : Int)
  else 1 - (liftExponent num den 1 400 : Int)

/-- Quarters of the unit in the last place: the value, and the ends of the interval of reals that
round to it, over one denominator. -/
structure Interval where
  value : Nat
  low : Nat
  high : Nat
  den : Nat
  closed : Bool

def Interval.ofBinary (b : Binary) : Interval :=
  let scale := if 0 ≤ b.exponent then Nat.pow 2 b.exponent.toNat else 1
  let den := if 0 ≤ b.exponent then 4 else 4 * Nat.pow 2 (-b.exponent).toNat
  let below := if b.mantissa = 0x10000000000000 ∧ -1074 < b.exponent then 1 else 2
  { value := 4 * b.mantissa * scale
    low := (4 * b.mantissa - below) * scale
    high := (4 * b.mantissa + 2) * scale
    den
    closed := b.mantissa % 2 == 0 }

/-- The grid point nearest to the value among its two neighbours on the grid of step
`10 ^ place`, if one lies in the interval; a tie goes to the even one. -/
def Interval.onGrid (i : Interval) (place : Int) : Option Nat :=
  let up := if 0 ≤ place then 1 else Nat.pow 10 (-place).toNat
  let den := if 0 ≤ place then i.den * Nat.pow 10 place.toNat else i.den
  let inside (c : Nat) : Bool :=
    if i.closed then i.low * up ≤ c * den && c * den ≤ i.high * up
    else i.low * up < c * den && c * den < i.high * up
  let below := i.value * up / den
  let rest := i.value * up % den
  let nearBelow := 2 * rest < den || (2 * rest == den && below % 2 == 0)
  match inside below, inside (below + 1) with
  | true, true => some (if nearBelow then below else below + 1)
  | true, false => some below
  | false, true => some (below + 1)
  | false, false => none

def Interval.search (i : Interval) (point : Int) : Nat → Nat → Nat × Int
  | count, 0 => (0, point - count)
  | count, fuel + 1 =>
    match i.onGrid (point - count) with
    | some c => if c = 0 then i.search point (count + 1) fuel else (c, point - count)
    | none => i.search point (count + 1) fuel

def shortest (b : Binary) : Digits :=
  let i := Interval.ofBinary b
  let (c, place) := i.search (decimalPoint i.value i.den) 1 17
  let ds := digitsOf c
  ⟨dropTrailingZeros ds, (ds.length : Int) + place⟩

def digitText (ds : List Nat) : Text := ds.map fun d => CodePoint.ofNat (48 + d)

def zeros (n : Nat) : Text := List.replicate n (CodePoint.ofChar '0')

def Digits.write (d : Digits) : Text :=
  let n : Int := d.digits.length
  if -3 ≤ d.point ∧ d.point ≤ 16 then
    if d.point ≤ 0 then "0." ++ zeros (-d.point).toNat ++ digitText d.digits
    else if n ≤ d.point then digitText d.digits ++ zeros (d.point - n).toNat ++ ".0"
    else
      digitText (d.digits.take d.point.toNat) ++ "." ++ digitText (d.digits.drop d.point.toNat)
  else
    let e := d.point - 1
    let tail : Text := if d.digits.length ≤ 1 then [] else "." ++ digitText (d.digits.drop 1)
    let magnitude := Text.ofNat e.natAbs
    digitText (d.digits.take 1) ++ tail ++ "e" ++ (if e < 0 then "-" else "+") ++
      zeros (2 - magnitude.length) ++ magnitude

def sign (negative : Bool) : Text := if negative then "-" else []

/-- The shortest text of a double, with the given words for the values that have no digits. -/
def writeShortest (nan infinite : Text) : Double → Text
  | .nan => nan
  | .infinite negative => sign negative ++ infinite
  | .finite b =>
    if b.mantissa = 0 then sign b.negative ++ "0.0" else sign b.negative ++ (shortest b).write

def placed (places scaled : Nat) : Text :=
  let whole := Text.ofNat (scaled / Nat.pow 10 places)
  if places = 0 then whole
  else
    let part := Text.ofNat (scaled % Nat.pow 10 places)
    whole ++ "." ++ zeros (places - part.length) ++ part

def writeFixed (places : Nat) : Double → Text
  | .nan => "nan"
  | .infinite negative => if negative then "-inf" else "inf"
  | .finite b =>
    let (num, den) := b.fraction
    sign b.negative ++ placed places (roundDiv (num * Nat.pow 10 places) den)

def fixed (places : Nat) (x : Float) : Text := writeFixed places (.ofFloat x)

end Phrasebook.Decimal
