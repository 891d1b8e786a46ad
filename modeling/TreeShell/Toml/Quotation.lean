import TreeShell.Number.Digits

/-! Strings of a TOML document: basic ones, where a backslash starts an escape, and
literal ones, on one line or on several. Each reader starts after the opening mark and
answers the text with what follows the closing mark. -/

namespace TreeShell.Toml

/-- A character that may stand anywhere in a string or a comment: a tab, and whatever is
not an ASCII control. -/
def isPlain (character : Char) : Bool :=
  character == '\t' || (0x20 ≤ character.toNat && character.toNat != 0x7F)

def withFirst (character : Char) (read : Option (List Char × List Char)) :
    Option (List Char × List Char) :=
  read.map fun (text, rest) => (character :: text, rest)

def shortEscape? : Char → Option Char
  | 'b' => some '\x08'
  | 't' => some '\t'
  | 'n' => some '\n'
  | 'f' => some '\x0c'
  | 'r' => some '\r'
  | '"' => some '"'
  | '\\' => some '\\'
  | _ => none

def scalar? (code : Nat) : Option Char :=
  if code < 0xD800 || (0xE000 ≤ code && code < 0x110000) then some (Char.ofNat code) else none

inductive Stage where
  | text
  | escape
  | code (missing value : Nat)
  /-- After a backslash at the end of a line, before and after the line's end. -/
  | fold (ended : Bool)
  | carriage (back : Stage)
  /-- Quotes of a string on several lines, where three or more close it. -/
  | quotes (count : Nat)

def afterCode (missing value : Nat) (character : Char) : Option (Option Char × Stage) :=
  (Digits.hexDigit? character).bind fun digit =>
    if missing ≤ 1 then (scalar? (value * 16 + digit)).map fun made => (some made, .text)
    else some (none, .code (missing - 1) (value * 16 + digit))

def afterBackslash (lines : Bool) (character : Char) : Option (Option Char × Stage) :=
  match character with
  | 'u' => some (none, .code 4 0)
  | 'U' => some (none, .code 8 0)
  | ' ' | '\t' => if lines then some (none, .fold false) else none
  | '\n' => if lines then some (none, .fold true) else none
  | '\r' => if lines then some (none, .carriage (.fold true)) else none
  | character => (shortEscape? character).map fun meant => (some meant, .text)

def afterText (lines : Bool) (character : Char) : Option (Option Char × Stage) :=
  match character with
  | '\\' => some (none, .escape)
  | '\n' => if lines then some (some '\n', .text) else none
  | '\r' => if lines then some (some '\n', .carriage .text) else none
  | character => if isPlain character then some (some character, .text) else none

/-- Blanks and line ends after a folded line, and the first character of the text after
them. -/
def afterFold (ended : Bool) (character : Char) : Option (Option Char × Stage) :=
  match character with
  | ' ' | '\t' => some (none, .fold ended)
  | '\n' => some (none, .fold true)
  | '\r' => some (none, .carriage (.fold true))
  | character => if ended then afterText true character else none

/-- A step that is not about closing the string: what it adds, and where it leads. -/
def stepBasic (lines : Bool) (stage : Stage) (character : Char) : Option (Option Char × Stage) :=
  match stage with
  | .text | .quotes _ => afterText lines character
  | .escape => afterBackslash lines character
  | .code missing value => afterCode missing value character
  | .fold ended => afterFold ended character
  | .carriage back => if character == '\n' then some (none, back) else none

def withQuotes (count : Nat) (read : Option (List Char × List Char)) :
    Option (List Char × List Char) :=
  read.map fun (text, rest) => (List.replicate count '"' ++ text, rest)

def Stage.endsText : Stage → Bool
  | .text | .quotes _ | .fold true => true
  | _ => false

def Stage.quoteCount : Stage → Nat
  | .quotes count => count
  | _ => 0

/-- A basic string, where `lines` tells whether it may run over several lines. Of up to
five quotes at its end the last three close it. -/
def readBasic (lines : Bool) : Stage → List Char → Option (List Char × List Char)
  | stage, [] =>
    if 3 ≤ stage.quoteCount then some (List.replicate (stage.quoteCount - 3) '"', []) else none
  | stage, character :: rest =>
    if character == '"' && stage.endsText then
      if !lines then some ([], rest)
      else if stage.quoteCount == 4 then some (['"', '"'], rest)
      else readBasic lines (.quotes (stage.quoteCount + 1)) rest
    else if 3 ≤ stage.quoteCount then
      some (List.replicate (stage.quoteCount - 3) '"', character :: rest)
    else
      match stepBasic lines stage character with
      | none => none
      | some (none, next) => withQuotes stage.quoteCount (readBasic lines next rest)
      | some (some made, next) =>
        withQuotes stage.quoteCount (withFirst made (readBasic lines next rest))

def readLiteral : List Char → Option (List Char × List Char)
  | [] => none
  | '\'' :: rest => some ([], rest)
  | character :: rest => if isPlain character then withFirst character (readLiteral rest) else none

/-- A literal string on several lines. Of up to five marks at its end the last three
close it. -/
def readLiteralLines : List Char → Option (List Char × List Char)
  | [] => none
  | '\'' :: '\'' :: '\'' :: '\'' :: '\'' :: rest => some (['\'', '\''], rest)
  | '\'' :: '\'' :: '\'' :: '\'' :: rest => some (['\''], rest)
  | '\'' :: '\'' :: '\'' :: rest => some ([], rest)
  | '\n' :: rest => withFirst '\n' (readLiteralLines rest)
  | '\r' :: '\n' :: rest => withFirst '\n' (readLiteralLines rest)
  | character :: rest =>
    if isPlain character then withFirst character (readLiteralLines rest) else none

/-- A line end right after the opening mark is no part of the text. -/
def dropLineEnd : List Char → List Char
  | '\n' :: rest => rest
  | '\r' :: '\n' :: rest => rest
  | text => text

def readString : List Char → Option (List Char × List Char)
  | '"' :: '"' :: '"' :: rest => readBasic true .text (dropLineEnd rest)
  | '"' :: rest => readBasic false .text rest
  | '\'' :: '\'' :: '\'' :: rest => readLiteralLines (dropLineEnd rest)
  | '\'' :: rest => readLiteral rest
  | _ => none

def readLineString : List Char → Option (List Char × List Char)
  | '"' :: rest => readBasic false .text rest
  | '\'' :: rest => readLiteral rest
  | _ => none

end TreeShell.Toml
