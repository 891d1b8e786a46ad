import TreeShell.Json.Value
import TreeShell.Number.Double

/-! Numbers as JSON spells them. A spelling is read into its parts, and the parts
tell whether it is an integer of 64 bits, a decimal, or too large to be either. -/

namespace TreeShell.Json

structure Numeral where
  negative : Bool
  whole : List Nat
  fraction : List Nat
  exponentNegative : Bool
  exponent : List Nat
  /-- Whether the spelling has neither a fraction nor an exponent. -/
  plain : Bool
  spelling : List Char

namespace Numeral

/-- Digits added to a number as long as it stays below 2^64, with the digits left over. -/
def absorb (total : Nat) : List Nat → Nat × List Nat
  | [] => (total, [])
  | digit :: rest =>
    if total * 10 + digit < Digits.wordLimit then absorb (total * 10 + digit) rest
    else (total, digit :: rest)

def roundBits (number : Nat) : Nat :=
  if number < Double.significandLimit then number
  else
    let shift := number.log2 - 52
    let unit := Digits.twoTo shift
    let kept := number / unit
    let left := number % unit
    if 2 * left < unit || (2 * left == unit && kept % 2 == 0) then kept * unit
    else (kept + 1) * unit

/-- Whether a significand times a power of ten lies past the largest double. Both are
rounded to doubles before they are multiplied. -/
def overflows (significand : Nat) (power : Int) : Bool :=
  if significand == 0 || power < 0 then false
  else if 308 < power then true
  else Digits.twoTo 1024 - Digits.twoTo 970 ≤
    roundBits significand * roundBits (Digits.tenTo power.toNat)

def exponentLimit : Nat := 0x7FFFFFFF

def toNumber? (numeral : Numeral) : Option JsonNumber :=
  let decimal : JsonNumber := .decimal (String.ofList numeral.spelling)
  let (whole, dropped) := absorb 0 numeral.whole
  if numeral.plain && dropped.isEmpty then
    if !numeral.negative then some (.integer whole)
    else if whole == 0 || Digits.signedLimit < whole then some decimal
    else some (.integer (-whole))
  else
    let (significand, unread) := absorb whole numeral.fraction
    let power : Int := dropped.length - (numeral.fraction.length - unread.length : Nat)
    let exponent := Digits.value 10 numeral.exponent
    let outside :=
      if exponentLimit < exponent then significand != 0 && !numeral.exponentNegative
      else overflows significand
        (if numeral.exponentNegative then power - exponent else power + exponent)
    if outside then none else some decimal

end Numeral
end TreeShell.Json
