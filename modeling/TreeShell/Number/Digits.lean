/-! Digits of numbers, and whole numbers as text spells them. -/

namespace TreeShell.Digits

def digit? (character : Char) : Option Nat :=
  if '0' ≤ character && character ≤ '9' then some (character.toNat - 0x30) else none

def hexDigit? (character : Char) : Option Nat :=
  if '0' ≤ character && character ≤ '9' then some (character.toNat - 0x30)
  else if 'a' ≤ character && character ≤ 'f' then some (character.toNat - 0x57)
  else if 'A' ≤ character && character ≤ 'F' then some (character.toNat - 0x37)
  else none

def value (base : Nat) (digits : List Nat) : Nat :=
  digits.foldl (fun total digit => total * base + digit) 0

def leading (text : List Char) : List Nat :=
  (text.takeWhile fun character => (digit? character).isSome).filterMap digit?

def after (text : List Char) : List Char :=
  text.dropWhile fun character => (digit? character).isSome

def natural? (text : List Char) : Option Nat :=
  if text.isEmpty then none else (text.mapM digit?).map (value 10)

def integer? (text : List Char) : Option Int :=
  match text with
  | '-' :: rest => (natural? rest).map fun number => -(number : Int)
  | '+' :: rest => (natural? rest).map fun number => (number : Int)
  | text => (natural? text).map fun number => (number : Int)

def wordLimit : Nat := 0x10000000000000000

def signedLimit : Int := 0x8000000000000000

def isWord (number : Int) : Bool :=
  -signedLimit ≤ number && number < signedLimit

def twoTo (exponent : Nat) : Nat := Nat.pow 2 exponent

def tenTo (exponent : Nat) : Nat := Nat.pow 10 exponent

def padded (width number : Nat) : List Char :=
  let text := (toString number).toList
  List.replicate (width - text.length) '0' ++ text

end TreeShell.Digits
