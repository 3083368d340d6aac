import Phrasebook.Decimal.Double
import Phrasebook.Fault

/-!
Whole numbers of any size together with doubles. Comparing is exact, and so are the sums of whole
numbers; a quotient is the nearest double. A whole number that is too large for a double cannot be
used as one.
-/

namespace Phrasebook

/-- A number: whole numbers of any size are kept apart from doubles. -/
inductive Number
  | whole (n : Int)
  | double (x : Float)

namespace Decimal

/-- The exponent of the last binary place of the double nearest to a positive fraction, which has
53 places unless it is too small for them. -/
def lastPlace (num den : Nat) : Int :=
  let guess : Int := (Nat.log2 num : Int) - Nat.log2 den - 52
  let scaled := num * Nat.pow 2 (-guess).toNat
  let unit := den * Nat.pow 2 guess.toNat
  max (if scaled < unit * Nat.pow 2 52 then guess - 1 else guess) (-1074)

/-- The double `mantissa · 2 ^ exponent`, for a mantissa of at most 53 places and an exponent from
-1074 on; none when it is too large. -/
def assemble? (negative : Bool) (mantissa : Nat) (exponent : Int) : Option Float :=
  let (m, e) : Nat × Int :=
    if mantissa = Nat.pow 2 53 then (Nat.pow 2 52, exponent + 1) else (mantissa, exponent)
  if 971 < e then none
  else
    let signBit : Nat := if negative then Nat.pow 2 63 else 0
    let magnitude : Nat := if m < Nat.pow 2 52 then m
      else (e + 1075).toNat * Nat.pow 2 52 + (m - Nat.pow 2 52)
    some (Float.ofBits (UInt64.ofNat (signBit + magnitude)))

/-- The double nearest to `± num / den`, a tie to the even one; none when it is too large. -/
def nearest? (negative : Bool) (num den : Nat) : Option Float :=
  if num = 0 then some 0
  else
    let e := lastPlace num den
    assemble? negative (roundDiv (num * Nat.pow 2 (-e).toNat) (den * Nat.pow 2 e.toNat)) e

end Decimal

namespace Number

def toFloat : Number → Except Fault Float
  | double x => .ok x
  | whole n =>
    match Decimal.nearest? (n < 0) n.natAbs 1 with
    | some x => .ok x
    | none => .error .overflow

def add : Number → Number → Except Fault Number
  | whole m, whole n => .ok (whole (m + n))
  | a, b => do return double ((← a.toFloat) + (← b.toFloat))

def sum : List Number → Except Fault Number :=
  List.foldlM add (whole 0)

def divNat (a : Number) (d : Nat) : Except Fault Float :=
  match a with
  | double x => .ok (x / Float.ofNat d)
  | whole n =>
    match Decimal.nearest? (n < 0) n.natAbs d with
    | some x => .ok x
    | none => .error .overflow

/-- Where a number stands: at one end of the line, at an exact fraction on it, or nowhere. -/
inductive Position
  | nowhere
  | below
  | above
  | at (num : Int) (den : Nat)

def position : Number → Position
  | whole n => .at n 1
  | double x =>
    match Decimal.Double.ofFloat x with
    | .nan => .nowhere
    | .infinite negative => if negative then .below else .above
    | .finite b =>
      let (num, den) := b.fraction
      .at (if b.negative then -(num : Int) else num) den

def Position.before : Position → Position → Bool
  | .at m d, .at n e => m * e < n * d
  | .below, .at _ _ => true
  | .below, .above => true
  | .at _ _, .above => true
  | _, _ => false

def Position.meets : Position → Position → Bool
  | .at m d, .at n e => m * e == n * d
  | .below, .below => true
  | .above, .above => true
  | _, _ => false

def lt (a b : Number) : Bool := a.position.before b.position

def same (a b : Number) : Bool := a.position.meets b.position

def le (a b : Number) : Bool := a.lt b || a.same b

def truncate? (a : Number) : Option Int :=
  match a.position with
  | .at num den => some (num.tdiv den)
  | _ => none

def fixed (places : Nat) (a : Number) : Except Fault Text := do
  return Decimal.fixed places (← a.toFloat)

end Number
end Phrasebook
