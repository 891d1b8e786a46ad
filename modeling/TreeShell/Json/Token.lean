import TreeShell.Json.Numeral

/-! JSON text as tokens. The lexer is a state machine that takes one character at a
time, so the tokens of a text are those of its first part followed by the rest's. -/

namespace TreeShell.Json

inductive Token where
  | openObject
  | closeObject
  | openArray
  | closeArray
  | comma
  | colon
  | null
  | bool (value : Bool)
  | number (value : JsonNumber)
  | string (value : String)
deriving DecidableEq, Repr

inductive Phase where
  | sign
  | zero
  | whole
  | point
  | fraction
  | mark
  | exponentSign
  | exponent
deriving DecidableEq, Repr

/-- What the lexer stands in. Texts of strings are held last character first. -/
inductive Mode where
  | between
  | string (text : List Char)
  | escape (text : List Char)
  | code (text : List Char) (high : Option Nat) (missing value : Nat)
  | paired (text : List Char) (high : Nat)
  | pairedCode (text : List Char) (high : Nat)
  | word (rest : List Char) (token : Token)
  | number (phase : Phase) (numeral : Numeral)

structure Lexer where
  mode : Mode
  /-- The tokens so far, last one first. -/
  tokens : List Token

namespace Lexer

def start : Lexer := ⟨.between, []⟩

def emit (lexer : Lexer) (token : Token) : Lexer :=
  ⟨.between, token :: lexer.tokens⟩

def beginNumeral (negative : Bool) (digits : List Nat) (character : Char) : Numeral :=
  ⟨negative, digits, [], false, [], true, [character]⟩

def between (lexer : Lexer) (character : Char) : Option Lexer :=
  match character with
  | ' ' | '\t' | '\n' | '\r' => some lexer
  | '\x7b' => some (lexer.emit .openObject)
  | '\x7d' => some (lexer.emit .closeObject)
  | '[' => some (lexer.emit .openArray)
  | ']' => some (lexer.emit .closeArray)
  | ',' => some (lexer.emit .comma)
  | ':' => some (lexer.emit .colon)
  | '"' => some { lexer with mode := .string [] }
  | 'n' => some { lexer with mode := .word ['u', 'l', 'l'] .null }
  | 't' => some { lexer with mode := .word ['r', 'u', 'e'] (.bool true) }
  | 'f' => some { lexer with mode := .word ['a', 'l', 's', 'e'] (.bool false) }
  | '-' => some { lexer with mode := .number .sign (beginNumeral true [] '-') }
  | '0' => some { lexer with mode := .number .zero (beginNumeral false [0] '0') }
  | character =>
    (Digits.digit? character).map fun digit =>
      { lexer with mode := .number .whole (beginNumeral false [digit] character) }

def shortEscape? : Char → Option Char
  | '"' => some '"'
  | '\\' => some '\\'
  | '/' => some '/'
  | 'b' => some '\x08'
  | 'f' => some '\x0c'
  | 'n' => some '\n'
  | 'r' => some '\r'
  | 't' => some '\t'
  | _ => none

/-- A whole four-digit code. A leading surrogate must be followed by a trailing one,
and the two make one character. -/
def finishCode (text : List Char) (high : Option Nat) (value : Nat) : Option Mode :=
  match high with
  | none =>
    if 0xD800 ≤ value && value < 0xDC00 then some (.paired text value)
    else if 0xDC00 ≤ value && value < 0xE000 then none
    else some (.string (Char.ofNat value :: text))
  | some high =>
    if 0xDC00 ≤ value && value < 0xE000 then
      some (.string (Char.ofNat (0x10000 + (high - 0xD800) * 0x400 + (value - 0xDC00)) :: text))
    else none

/-- The next phase of a number and its parts, if the character continues it. -/
def advance? (phase : Phase) (numeral : Numeral) (character : Char) : Option (Phase × Numeral) :=
  let numeral := { numeral with spelling := numeral.spelling ++ [character] }
  let point := some (.point, { numeral with plain := false })
  let mark := some (.mark, { numeral with plain := false })
  let whole digit := { numeral with whole := numeral.whole ++ [digit] }
  let fraction digit := { numeral with fraction := numeral.fraction ++ [digit] }
  let exponent digit := { numeral with exponent := numeral.exponent ++ [digit] }
  match phase, Digits.digit? character with
  | .sign, some 0 => some (.zero, whole 0)
  | .sign, some digit => some (.whole, whole digit)
  | .whole, some digit => some (.whole, whole digit)
  | .point, some digit => some (.fraction, fraction digit)
  | .fraction, some digit => some (.fraction, fraction digit)
  | .mark, some digit => some (.exponent, exponent digit)
  | .exponentSign, some digit => some (.exponent, exponent digit)
  | .exponent, some digit => some (.exponent, exponent digit)
  | .zero, none | .whole, none =>
    if character == '.' then point
    else if character == 'e' || character == 'E' then mark else none
  | .fraction, none => if character == 'e' || character == 'E' then mark else none
  | .mark, none =>
    if character == '+' then some (.exponentSign, numeral)
    else if character == '-' then some (.exponentSign, { numeral with exponentNegative := true })
    else none
  | _, _ => none

/-- Whether a number may end where it stands. -/
def complete : Phase → Bool
  | .zero | .whole | .fraction | .exponent => true
  | _ => false

def finishNumber (lexer : Lexer) (phase : Phase) (numeral : Numeral) : Option Lexer :=
  if complete phase then numeral.toNumber?.map fun number => lexer.emit (.number number)
  else none

def step (lexer : Lexer) (character : Char) : Option Lexer :=
  match lexer.mode with
  | .between => lexer.between character
  | .string text =>
    if character == '"' then some (lexer.emit (.string (String.ofList text.reverse)))
    else if character == '\\' then some { lexer with mode := .escape text }
    else if character.toNat < 0x20 then none
    else some { lexer with mode := .string (character :: text) }
  | .escape text =>
    if character == 'u' then some { lexer with mode := .code text none 4 0 }
    else (shortEscape? character).map fun meant => { lexer with mode := .string (meant :: text) }
  | .code text high missing value =>
    match Digits.hexDigit? character with
    | none => none
    | some digit =>
      if missing ≤ 1 then
        (finishCode text high (value * 16 + digit)).map fun mode => { lexer with mode }
      else some { lexer with mode := .code text high (missing - 1) (value * 16 + digit) }
  | .paired text high =>
    if character == '\\' then some { lexer with mode := .pairedCode text high } else none
  | .pairedCode text high =>
    if character == 'u' then some { lexer with mode := .code text (some high) 4 0 } else none
  | .word rest token =>
    match rest with
    | [] => none
    | [last] => if character == last then some (lexer.emit token) else none
    | next :: rest =>
      if character == next then some { lexer with mode := .word rest token } else none
  | .number phase numeral =>
    match advance? phase numeral character with
    | some (phase, numeral) => some { lexer with mode := .number phase numeral }
    | none =>
      match lexer.finishNumber phase numeral with
      | some finished => finished.between character
      | none => none

def finish (lexer : Lexer) : Option (List Token) :=
  match lexer.mode with
  | .between => some lexer.tokens.reverse
  | .number phase numeral => (lexer.finishNumber phase numeral).map fun last => last.tokens.reverse
  | _ => none

end Lexer

def tokens? (text : List Char) : Option (List Token) :=
  (text.foldlM Lexer.step Lexer.start).bind Lexer.finish

end TreeShell.Json
