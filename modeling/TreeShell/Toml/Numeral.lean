import TreeShell.Toml.Value

/-! Numbers of a TOML document. Single underscores may stand between two digits; a
whole number has no leading zeros unless it names its base. Each reader answers what it
read with what follows. -/

namespace TreeShell.Toml

def moreDigits (isDigit : Char → Bool) : List Char → Option (List Char × List Char)
  | [] => some ([], [])
  | '_' :: [] => none
  | '_' :: next :: rest =>
    if isDigit next then (moreDigits isDigit rest).map fun (digits, rest) => (next :: digits, rest)
    else none
  | next :: rest =>
    if isDigit next then (moreDigits isDigit rest).map fun (digits, rest) => (next :: digits, rest)
    else some ([], next :: rest)

def readDigits (isDigit : Char → Bool) : List Char → Option (List Char × List Char)
  | [] => none
  | first :: rest =>
    if isDigit first then
      (moreDigits isDigit rest).map fun (digits, rest) => (first :: digits, rest)
    else none

def isDecimal (character : Char) : Bool :=
  (Digits.digit? character).isSome

/-- The digits before a point; a leading zero stands alone. -/
def readWhole : List Char → Option (List Char × List Char)
  | '0' :: rest => some (['0'], rest)
  | text => readDigits isDecimal text

def readSign : List Char → List Char × List Char
  | '+' :: rest => (['+'], rest)
  | '-' :: rest => (['-'], rest)
  | rest => ([], rest)

def readExponent (mark : Char) (text : List Char) : Option (List Char × List Char) :=
  let (sign, rest) := readSign text
  (readDigits isDecimal rest).map fun (digits, rest) => (mark :: sign ++ digits, rest)

def readOptionalExponent : List Char → Option (List Char × List Char)
  | 'e' :: rest => readExponent 'e' rest
  | 'E' :: rest => readExponent 'E' rest
  | rest => some ([], rest)

/-- The number of a spelling. A spelling past the largest double is refused; past the
least one it is the negative infinity. -/
def floatOf? (spelling : List Char) : Option Toml :=
  match Double.ofText? spelling with
  | some (.infinite false) => none
  | found => found.map .float

def integerOf? (number : Option Int) : Option Toml :=
  number.bind fun number => if Digits.isWord number then some (.integer number) else none

/-- A decimal number: an integer, or a float if a point or an exponent follows. -/
def readDecimal (text : List Char) : Option (Toml × List Char) := do
  let (sign, rest) := readSign text
  let (whole, rest) ← readWhole rest
  let spelling := sign ++ whole
  match rest with
  | '.' :: rest =>
    let (fraction, rest) ← readDigits isDecimal rest
    let (exponent, rest) ← readOptionalExponent rest
    let value ← floatOf? (spelling ++ '.' :: fraction ++ exponent)
    pure (value, rest)
  | rest =>
    match ← readOptionalExponent rest with
    | ([], rest) => (integerOf? (Digits.integer? spelling)).map (·, rest)
    | (exponent, rest) => (floatOf? (spelling ++ exponent)).map (·, rest)

def readBased (base : Nat) (text : List Char) : Option (Toml × List Char) := do
  let digit? := fun character => (Digits.hexDigit? character).filter (· < base)
  let (digits, rest) ← readDigits (fun character => (digit? character).isSome) text
  let value ← integerOf? (some (Digits.value base (digits.filterMap digit?)))
  pure (value, rest)

def readNamed (negative : Bool) : List Char → Option (Toml × List Char)
  | 'i' :: 'n' :: 'f' :: rest => some (.float (.infinite negative), rest)
  | 'n' :: 'a' :: 'n' :: rest => some (.float .notANumber, rest)
  | _ => none

def readNumber (text : List Char) : Option (Toml × List Char) :=
  match text with
  | '0' :: 'x' :: rest => readBased 16 rest
  | '0' :: 'o' :: rest => readBased 8 rest
  | '0' :: 'b' :: rest => readBased 2 rest
  | '-' :: rest => (readNamed true rest).or (readDecimal text)
  | '+' :: rest => (readNamed false rest).or (readDecimal text)
  | text => (readNamed false text).or (readDecimal text)

end TreeShell.Toml
