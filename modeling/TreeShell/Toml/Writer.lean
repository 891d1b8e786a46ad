import TreeShell.Text.Quoted
import TreeShell.Toml.Document

/-! Sections of settings as TOML text. Of the ways to quote a text the plainest is taken
that needs no escapes. -/

namespace TreeShell.Toml

inductive Entry where
  | bool (value : Bool)
  | natural (value : Nat)
  | text (value : String)
  | texts (values : List String)
deriving DecidableEq, Repr

structure Section where
  path : List String
  entries : List (String × Entry)
deriving DecidableEq, Repr

inductive Quoting where
  | basic
  | literal
  | basicLines
  | literalLines
deriving DecidableEq, Repr

def Quoting.mark : Quoting → List Char
  | .basic => ['"']
  | .literal => ['\'']
  | .basicLines => ['"', '"', '"']
  | .literalLines => ['\'', '\'', '\'']

def longestRun (character : Char) (text : List Char) : Nat :=
  (text.foldl (fun (longest, current) next =>
    if next == character then (max longest (current + 1), current + 1) else (longest, 0))
    ((0, 0) : Nat × Nat)).1

/-- The first quoting, in a fixed order, that needs no escapes. Where each of them needs
some, the text is a basic string. -/
def Quoting.ofText (text : List Char) : Quoting :=
  let lines := text.contains '\n'
  let shown := text.all fun character => isPlain character || character == '\n'
  let folds := text.contains '\\'
  let quotes := longestRun '"' text
  let apostrophes := longestRun '\'' text
  if shown && !folds && quotes == 0 && !lines then .basic
  else if shown && apostrophes == 0 && !lines then .literal
  else if shown && !folds && quotes ≤ 2 then .basicLines
  else if shown && apostrophes ≤ 2 then .literalLines
  else if lines then .basicLines else .basic

def Quoting.ofName (name : List Char) : Quoting :=
  let shown := name.all isPlain
  if shown && !name.contains '\\' && !name.contains '"' then .basic
  else if shown && !name.contains '\'' then .literal
  else .basic

/-- One character of a basic string that is no quote; line ends stand as they are on
several lines. -/
def escapeCharacter (lines : Bool) : Char → List Char
  | '\x08' => ['\\', 'b']
  | '\t' => ['\\', 't']
  | '\n' => if lines then ['\n'] else ['\\', 'n']
  | '\x0c' => ['\\', 'f']
  | '\r' => ['\\', 'r']
  | '\\' => ['\\', '\\']
  | character =>
    if character.toNat < 0x20 || character.toNat == 0x7F then
      ['\\', 'u', '0', '0', (Text.hexDigit (character.toNat / 16)).toUpper,
        (Text.hexDigit (character.toNat % 16)).toUpper]
    else [character]

/-- The inside of a basic string after some quotes. On several lines two quotes in a row
stand as they are; any other is escaped. -/
def escapeText (lines : Bool) (quotes : Nat) : List Char → List Char
  | [] => []
  | character :: rest =>
    if character != '"' then escapeCharacter lines character ++ escapeText lines 0 rest
    else if lines && quotes < 2 then '"' :: escapeText lines (quotes + 1) rest
    else '\\' :: '"' :: escapeText lines 0 rest

def Quoting.isLines : Quoting → Bool
  | .basicLines | .literalLines => true
  | .basic | .literal => false

/-- A text between its marks. One with line ends starts on a line of its own. -/
def Quoting.write (quoting : Quoting) (text : List Char) : List Char :=
  let start := if quoting.isLines && text.contains '\n' then ['\n'] else []
  let inside := match quoting with
    | .basic => escapeText false 0 text
    | .basicLines => escapeText true 0 text
    | .literal | .literalLines => text
  quoting.mark ++ start ++ inside ++ quoting.mark

def stringText (text : List Char) : List Char :=
  (Quoting.ofText text).write text

/-- A name on its own where every character may stand in one, else between quotes. -/
def keyText (name : String) : List Char :=
  let text := name.toList
  if text.all isBare && !text.isEmpty then text
  else (Quoting.ofName text).write text

def textsText : List String → List Char
  | [] => ['[', ']']
  | [value] => '[' :: stringText value.toList ++ [']']
  | values =>
    '[' :: values.flatMap (fun value => "\n    ".toList ++ stringText value.toList ++ [',']) ++
      ['\n', ']']

def Entry.toText : Entry → List Char
  | .bool value => (toString value).toList
  | .natural value => (toString value).toList
  | .text value => stringText value.toList
  | .texts values => textsText values

def Section.toText (part : Section) : List Char :=
  '[' :: ['.'].intercalate (part.path.map keyText) ++ "]\n".toList ++
    part.entries.flatMap fun (name, entry) =>
      keyText name ++ " = ".toList ++ entry.toText ++ ['\n']

def documentOf (sections : List Section) : String :=
  String.ofList (['\n'].intercalate (sections.map Section.toText))

end TreeShell.Toml
