import TreeShell.Number.Double
import TreeShell.Pattern.Reader
import TreeShell.Text.Alphanumeric
import TreeShell.Text.Blank

/-! Directives of log filters: a target, a span in brackets with fields in braces, and a
level after an equals sign. Blanks around a directive are not looked at, but places in
it are counted without the leading ones and cut out with them. -/

namespace TreeShell

inductive DirectiveFault where
  | malformed
  | level
  /-- The value of a field is no pattern that can be matched. -/
  | field (fault : PatternFault)
deriving DecidableEq, Repr

namespace Directive

def isLevel (text : List Char) : Bool :=
  let digits := match text with
    | '+' :: rest => rest
    | digits => digits
  match Digits.natural? digits with
  | some number => number ≤ 5
  | none => ["", "off", "error", "warn", "info", "debug", "trace"].contains
      (String.ofList (text.map Char.toLower))

inductive Phase where
  | start
  | target
  | span
  /-- Inside of braces, with the place where the field starts. -/
  | field (place : Nat)
  | braced
  | bracketed
  /-- After the equals sign, with the place where the level starts. -/
  | level (place : Nat)
  | complete
deriving DecidableEq, Repr

def canStart (character : Char) : Bool :=
  character == '-' || character == ':' || character == '_' || Text.isAlphanumeric character

/-- Text from a place on, which is counted in bytes and does not fall inside of a
character. -/
def dropBytes? : Nat → List Char → Option (List Char)
  | 0, text => some text
  | _, [] => none
  | count, character :: rest =>
    if character.utf8Size ≤ count then dropBytes? (count - character.utf8Size) rest else none

/-- Text up to a place, which is counted in bytes and does not fall inside of a character. -/
def takeBytes? : Nat → List Char → Option (List Char)
  | 0, _ => some []
  | _, [] => none
  | count, character :: rest =>
    if character.utf8Size ≤ count then
      (takeBytes? (count - character.utf8Size) rest).map (character :: ·)
    else none

def cut (whole : List Char) (first last : Nat) : Except DirectiveFault (List Char) :=
  match (dropBytes? first whole).bind (takeBytes? (last - first)) with
  | some text => .ok text
  | none => .error .malformed

def checkLevel (text : List Char) : Except DirectiveFault Unit :=
  if isLevel text then .ok () else .error .level

/-- Accept a field: a name, or a name and a value with an equals sign between. A value is a
number or a pattern; a second equals sign ends it. -/
def checkField (text : List Char) : Except DirectiveFault Unit :=
  let value := ((text.dropWhile (· != '=')).drop 1).takeWhile (· != '=')
  if (Double.ofText? value).isSome then .ok ()
  else (Pattern.check value).mapError .field

def step (whole : List Char) (place : Nat) (phase : Phase) (character : Char) :
    Except DirectiveFault Phase :=
  match phase with
  | .start =>
    if character == '[' then .ok .span
    else if canStart character then .ok .target
    else .error .malformed
  | .target =>
    if character == '=' then .ok (.level (place + 1))
    else if character == '[' then .ok .span
    else if character == ',' then .ok .complete
    else .ok .target
  | .span =>
    if character == ']' then .ok .bracketed
    else if character == '\x7b' then .ok (.field (place + 1))
    else .ok .span
  | .field first =>
    if character == '\x7d' || character == ',' then
      if first == place then .error .malformed
      else do
        checkField (← cut whole first place)
        pure (if character == ',' then .field (place + 1) else .braced)
    else .ok (.field first)
  | .braced => if character == ']' then .ok .bracketed else .error .malformed
  | .bracketed =>
    if character == '=' then .ok (.level (place + 1))
    else if character == ',' then .ok .complete
    else .error .malformed
  | .level first =>
    if character == ',' then do
      checkLevel (← cut whole first place)
      pure .complete
    else .ok (.level first)
  | .complete => .error .malformed

def finish (whole : List Char) : Phase → Except DirectiveFault Unit
  | .target | .bracketed | .complete => .ok ()
  | .level first => do checkLevel (← cut whole first (String.ofList whole).utf8ByteSize)
  | .start | .span | .field _ | .braced => .error .malformed

def run (whole : List Char) : Nat → Phase → List Char → Except DirectiveFault Unit
  | _, phase, [] => finish whole phase
  | place, phase, character :: rest =>
    match step whole place phase character with
    | .error fault => .error fault
    | .ok next => run whole (place + character.utf8Size) next rest

def trimmed (text : List Char) : List Char :=
  ((text.dropWhile Text.isBlank).reverse.dropWhile Text.isBlank).reverse

/-- What is wrong with a directive, if anything is. -/
def check (directive : List Char) : Except DirectiveFault Unit :=
  run directive 0 .start (trimmed directive)

end Directive

def isFilter (text : String) : Bool :=
  (Text.runs (· == ',') text).all fun directive => (Directive.check directive.toList).isOk

end TreeShell
