import TreeShell.Number.Digits

/-! Dates and times of a TOML document. They are checked against the calendar and kept
in one standard spelling. Each reader answers the spelling with what follows. -/

namespace TreeShell.Toml

def readPair (least most : Nat) : List Char → Option (Nat × List Char)
  | first :: second :: rest =>
    match Digits.digit? first, Digits.digit? second with
    | some tens, some ones =>
      let number := 10 * tens + ones
      if least ≤ number && number ≤ most then some (number, rest) else none
    | _, _ => none
  | _ => none

def expect (character : Char) : List Char → Option (List Char)
  | found :: rest => if found == character then some rest else none
  | [] => none

def isLeapYear (year : Nat) : Bool :=
  year % 4 == 0 && (year % 100 != 0 || year % 400 == 0)

def daysIn (year month : Nat) : Nat :=
  if month == 2 then (if isLeapYear year then 29 else 28)
  else if [4, 6, 9, 11].contains month then 30
  else 31

def readDate (text : List Char) : Option (List Char × List Char) := do
  let (century, rest) ← readPair 0 99 text
  let (year, rest) ← readPair 0 99 rest
  let rest ← expect '-' rest
  let (month, rest) ← readPair 1 12 rest
  let rest ← expect '-' rest
  let (day, rest) ← readPair 1 (daysIn (100 * century + year) month) rest
  pure (Digits.padded 4 (100 * century + year) ++ '-' :: Digits.padded 2 month ++
    '-' :: Digits.padded 2 day, rest)

def fractionText (digits : List Char) : List Char :=
  match ((digits.take 9).reverse.dropWhile (· == '0')).reverse with
  | [] => []
  | kept => '.' :: kept

def readFraction : List Char → Option (List Char × List Char)
  | '.' :: rest =>
    let isDigit := fun character => (Digits.digit? character).isSome
    match rest.takeWhile isDigit with
    | [] => none
    | digits => some (fractionText digits, rest.dropWhile isDigit)
  | rest => some ([], rest)

def readTime (lastHour : Nat) (text : List Char) : Option (List Char × List Char) := do
  let (hour, rest) ← readPair 0 lastHour text
  let rest ← expect ':' rest
  let (minute, rest) ← readPair 0 59 rest
  let rest ← expect ':' rest
  let (second, rest) ← readPair 0 60 rest
  let (fraction, rest) ← readFraction rest
  pure (Digits.padded 2 hour ++ ':' :: Digits.padded 2 minute ++
    ':' :: Digits.padded 2 second ++ fraction, rest)

/-- A distance from universal time. No distance counts as one ahead. -/
def offsetText (sign : Char) (hours minutes : Nat) : List Char :=
  (if hours == 0 && minutes == 0 then '+' else sign) ::
    Digits.padded 2 hours ++ ':' :: Digits.padded 2 minutes

/-- The distance from universal time, where no distance has no sign to show. -/
def readOffset : List Char → Option (List Char × List Char)
  | [] => some ([], [])
  | mark :: rest =>
    if mark == 'Z' || mark == 'z' then some (['Z'], rest)
    else if mark == '+' || mark == '-' then do
      let (hours, rest) ← readPair 0 23 rest
      let rest ← expect ':' rest
      let (minutes, rest) ← readPair 0 59 rest
      pure (offsetText mark hours minutes, rest)
    else some ([], mark :: rest)

def isTimeMark (character : Char) : Bool :=
  character == 'T' || character == 't' || character == ' '

def readTimeAfter (text : List Char) : Option (List Char × List Char) :=
  match text with
  | mark :: rest =>
    if isTimeMark mark then
      match readTime 23 rest with
      | none => some ([], text)
      | some (time, rest) =>
        (readOffset rest).map fun (offset, rest) => ('T' :: time ++ offset, rest)
    else some ([], text)
  | [] => some ([], [])

def readMoment (text : List Char) : Option (List Char × List Char) :=
  match readDate text with
  | some (date, rest) => (readTimeAfter rest).map fun (time, rest) => (date ++ time, rest)
  | none => readTime 23 text

/-- The distance from universal time that a whole text gives: a day at most, in hours and
minutes that are counted together. -/
def offsetOfText? : List Char → Option (List Char)
  | [] => some []
  | ['Z'] | ['z'] => some ['Z']
  | sign :: rest =>
    if sign == '+' || sign == '-' then do
      let (hours, rest) ← readPair 0 99 rest
      let rest ← expect ':' rest
      let (minutes, rest) ← readPair 0 99 rest
      let total := 60 * hours + minutes
      if rest.isEmpty && total ≤ 24 * 60 then some (offsetText sign (total / 60) (total % 60))
      else none
    else none

/-- The standard spelling of the date, the time, or both, that a whole text gives. Hour 24
counts here, and a time after a date may be at a distance from universal time. -/
def momentOfText? (text : List Char) : Option (List Char) :=
  match text with
  | _ :: _ :: ':' :: _ => do
    let (time, rest) ← readTime 24 text
    if rest.isEmpty then some time else none
  | _ => do
    let (date, rest) ← readDate text
    match rest with
    | [] => some date
    | mark :: rest =>
      if isTimeMark mark then do
        let (time, rest) ← readTime 24 rest
        (offsetOfText? rest).map fun offset => date ++ 'T' :: time ++ offset
      else none

end TreeShell.Toml
