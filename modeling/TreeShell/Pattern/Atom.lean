import TreeShell.Number.Digits
import TreeShell.Pattern.Mode

/-! The smallest parts of a pattern: characters, categories of them, and edges. No tables
of letters are at hand: what asks for one cannot be matched, which are categories beyond
ASCII and letters of any case. Bytes that spell no character cannot be matched either. -/

namespace TreeShell.Pattern

inductive Atom where
  /-- A character; `byte` tells that two hexadecimal digits spell it. -/
  | character (value : Char) (byte : Bool)
  /-- Digits, blanks or the characters of words, or else all others. -/
  | category (others : Bool)
  /-- The start or the end of the text. -/
  | textEdge
  /-- An edge of a word, or any place but that. -/
  | wordEdge
deriving DecidableEq, Repr

def isAscii (character : Char) : Bool :=
  character.toNat < 0x80

namespace Mode

def allows (mode : Mode) : Atom → Bool
  | .character value byte => if mode.characters then !mode.anyCase else !byte || isAscii value
  | .category others => !mode.characters && !others
  | .textEdge | .wordEdge => true

def allowsInBrackets (mode : Mode) : Atom → Bool
  | .character value _ => if mode.characters then !mode.anyCase else isAscii value
  | .category others => !mode.characters && !others
  | .textEdge | .wordEdge => false

/-- Hexadecimal digits as a number, `count` of them, between which gaps may stand. -/
def readCode (mode : Mode) : Nat → Nat → List Char → Option (Nat × List Char)
  | 0, code, text => some (code, text)
  | count + 1, code, text =>
    match mode.skip text with
    | [] => none
    | character :: rest => (Digits.hexDigit? character).bind fun digit =>
      mode.readCode count (16 * code + digit) rest

def readCoded (mode : Mode) (count : Nat) (text : List Char) : Option (Atom × List Char) :=
  (mode.readCode count 0 text).bind fun (code, rest) =>
    if code.isValidChar then some (.character (Char.ofNat code) (count == 2), rest) else none

end Mode

def control? : Char → Option Char
  | 'a' => some '\x07'
  | 'f' => some '\x0c'
  | 't' => some '\t'
  | 'n' => some '\n'
  | 'r' => some '\r'
  | 'v' => some '\x0b'
  | _ => none

/-- What a backslash stands for with the text after it. Signs stand for themselves. -/
def readEscape (mode : Mode) : List Char → Option (Atom × List Char)
  | [] => none
  | 'x' :: rest => mode.readCoded 2 rest
  | 'u' :: rest => mode.readCoded 4 rest
  | 'U' :: rest => mode.readCoded 8 rest
  | character :: rest =>
    if ['d', 's', 'w'].contains character then some (.category false, rest)
    else if ['D', 'S', 'W'].contains character then some (.category true, rest)
    else if ['A', 'z'].contains character then some (.textEdge, rest)
    else if ['b', 'B', '<', '>'].contains character then some (.wordEdge, rest)
    else if isAscii character && !character.isAlphanum then some (.character character false, rest)
    else (control? character).map fun control => (.character control false, rest)

end TreeShell.Pattern
