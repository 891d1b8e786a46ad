import TreeShell.Number.Double

/-! Doubles as text: the shortest decimal that reads back as the same double, without
an exponent. -/

namespace TreeShell.Double

/-- The reals that round to a positive double, as numerators over one denominator. The
ends count as well where `closed` says so. -/
structure Neighbourhood where
  low : Nat
  middle : Nat
  high : Nat
  unit : Nat
  closed : Bool

/-- Below a power of two the next double is only half as far away. -/
def neighbourhood (significand : Nat) (power : Int) : Neighbourhood :=
  let below := if significand == leastNormal && lowestPower < power then 1 else 2
  let up := Digits.twoTo (power - 2).toNat
  { low := (4 * significand - below) * up
    middle := 4 * significand * up
    high := (4 * significand + 2) * up
    unit := Digits.twoTo (2 - power).toNat
    closed := significand % 2 == 0 }

namespace Neighbourhood

def holds (near : Neighbourhood) (count : Nat) (exponent : Int) : Bool :=
  let point := count * Digits.tenTo exponent.toNat * near.unit
  let scale := Digits.tenTo (-exponent).toNat
  if near.closed then near.low * scale ≤ point && point ≤ near.high * scale
  else near.low * scale < point && point < near.high * scale

def multiple? (near : Neighbourhood) (exponent : Int) : Option Nat :=
  let middle := near.middle * Digits.tenTo (-exponent).toNat
  let step := near.unit * Digits.tenTo exponent.toNat
  let count := middle / step
  let below := near.holds count exponent
  let above := near.holds (count + 1) exponent
  if below && (!above || 2 * (middle % step) < step) then some count
  else if above then some (count + 1) else none

/-- The first grid of powers of ten, from the coarsest down, that has a point among the
reals. The finest one always has. -/
def decimal (near : Neighbourhood) : Nat → Nat × Int
  | 0 => (near.middle * Digits.tenTo 324 / near.unit, -324)
  | steps + 1 =>
    let exponent := (steps : Int) - 324
    match near.multiple? exponent with
    | some count => (count, exponent)
    | none => near.decimal steps

end Neighbourhood

def gridCount : Nat := 634

/-- The shortest decimal of a positive double: its digits as a number, and the power of
ten that they count. -/
def shortest (significand : Nat) (power : Int) : Nat × Int :=
  (neighbourhood significand power).decimal gridCount

def positional (count : Nat) (exponent : Int) : List Char :=
  let places := (-exponent).toNat
  let digits := Digits.padded (places + 1) count ++ List.replicate exponent.toNat '0'
  if places == 0 then digits
  else digits.take (digits.length - places) ++ '.' :: digits.drop (digits.length - places)

def toText : Double → String
  | .notANumber => "NaN"
  | .infinite negative => if negative then "-inf" else "inf"
  | .finite negative significand power =>
    let (count, exponent) := if significand == 0 then (0, 0) else shortest significand power
    String.ofList ((if negative then ['-'] else []) ++ positional count exponent)

end TreeShell.Double
