import TreeShell.Number.Digits

/-! Double-precision numbers, as a significand times a power of two. A decimal is read
as the nearest of them, and of two that are equally near the one with an even
significand. -/

namespace TreeShell

inductive Double where
  /-- The significand is below 2^53 and reaches 2^52 unless the power is the lowest. -/
  | finite (negative : Bool) (significand : Nat) (power : Int)
  | infinite (negative : Bool)
  | notANumber
deriving DecidableEq, Repr

namespace Double

def lowestPower : Int := -1074

def highestPower : Int := 971

def significandLimit : Nat := 0x20000000000000

def leastNormal : Nat := 0x10000000000000

def roundQuotient (number unit : Nat) : Nat :=
  let whole := number / unit
  let twice := 2 * (number % unit)
  if twice < unit || (twice == unit && whole % 2 == 0) then whole else whole + 1

def inUnits (number unit : Nat) (power : Int) : Nat × Nat :=
  (number * Digits.twoTo (-power).toNat, unit * Digits.twoTo power.toNat)

/-- The power at which a quotient's significand has 53 bits, or the lowest one. -/
def powerOf (number unit : Nat) : Int :=
  let guess := max lowestPower ((number.log2 : Int) - unit.log2 - 53)
  let (scaled, scale) := inUnits number unit guess
  if significandLimit * scale ≤ scaled then guess + 1 else guess

/-- A number from a significand that rounding may have taken to 2^53. -/
def ofRounded (negative : Bool) (significand : Nat) (power : Int) : Double :=
  let (significand, power) :=
    if significand == significandLimit then (leastNormal, power + 1) else (significand, power)
  if highestPower < power then .infinite negative else .finite negative significand power

def ofQuotient (negative : Bool) (number unit : Nat) : Double :=
  let power := powerOf number unit
  let (scaled, scale) := inUnits number unit power
  ofRounded negative (roundQuotient scaled scale) power

def zero (negative : Bool) : Double := .finite negative 0 lowestPower

/-- A whole number times a power of ten. Magnitudes far out of range are told from the
number of digits alone. -/
def ofDecimal (negative : Bool) (number : Nat) (exponent : Int) : Double :=
  let size : Int := (toString number).length + exponent
  if number == 0 || size < -330 then zero negative
  else if 330 < size then .infinite negative
  else ofQuotient negative (number * Digits.tenTo exponent.toNat)
    (Digits.tenTo (-exponent).toNat)

def isZero : Double → Bool
  | .finite _ significand _ => significand == 0
  | _ => false

/-- The nearest whole number from 0 to 2^64 - 1, a half going away from zero. -/
def toWord : Double → Nat
  | .finite false significand power =>
    min (Digits.wordLimit - 1) (if 0 ≤ power then significand * Digits.twoTo power.toNat
      else (2 * significand + Digits.twoTo (-power).toNat) / Digits.twoTo ((-power).toNat + 1))
  | .infinite false => Digits.wordLimit - 1
  | _ => 0

def exponent? : List Char → Option Int
  | [] => some 0
  | mark :: rest => if mark == 'e' || mark == 'E' then Digits.integer? rest else none

/-- Whole digits, a fraction and an exponent; one digit at least before the exponent. -/
def unsigned? (negative : Bool) (text : List Char) : Option Double :=
  let whole := Digits.leading text
  let (fraction, rest) := match Digits.after text with
    | '.' :: rest => (Digits.leading rest, Digits.after rest)
    | rest => ([], rest)
  if whole.isEmpty && fraction.isEmpty then none
  else (exponent? rest).map fun exponent =>
    ofDecimal negative (Digits.value 10 (whole ++ fraction)) (exponent - fraction.length)

def named? (negative : Bool) (text : List Char) : Option Double :=
  match String.ofList (text.map Char.toLower) with
  | "inf" | "infinity" => some (.infinite negative)
  | "nan" => some .notANumber
  | _ => none

def ofText? (text : List Char) : Option Double :=
  let (negative, rest) := match text with
    | '-' :: rest => (true, rest)
    | '+' :: rest => (false, rest)
    | rest => (false, rest)
  (named? negative rest).or (unsigned? negative rest)

end Double
end TreeShell
