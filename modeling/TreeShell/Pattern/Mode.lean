import TreeShell.Text.Blank

/-! The modes that a pattern is read in. A pattern starts in the standard mode, and flags
change the mode up to the end of the group that they stand in. -/

namespace TreeShell.Pattern

structure Mode where
  /-- Whether characters are matched, and not the bytes that spell them. -/
  characters : Bool
  /-- Whether the case of letters is passed over. -/
  anyCase : Bool
  /-- Whether blanks and comments in the pattern say nothing. -/
  spaced : Bool
deriving DecidableEq, Repr

namespace Mode

def standard : Mode := ⟨true, false, false⟩

/-- The mode with the flag of a letter turned on or off. Flags for the ends of lines and
for greed ask nothing of a reader. -/
def flag? (mode : Mode) (letter : Char) (on : Bool) : Option Mode :=
  match letter with
  | 'i' => some { mode with anyCase := on }
  | 'u' => some { mode with characters := on }
  | 'x' => some { mode with spaced := on }
  | 'm' | 's' | 'U' | 'R' => some mode
  | _ => none

/-- Text without the blanks and comments it starts with; `comment` tells that it starts
inside of a comment. -/
def skipGaps (comment : Bool) : List Char → List Char
  | [] => []
  | character :: rest =>
    if comment then skipGaps (character != '\n') rest
    else if Text.isBlank character then skipGaps false rest
    else if character == '#' then skipGaps true rest
    else character :: rest

def skip (mode : Mode) (text : List Char) : List Char :=
  if mode.spaced then skipGaps false text else text

/-- The character that decides what a hyphen before the text means. The mark of a comment
is passed over here, but not the comment. -/
def afterHyphen (mode : Mode) (text : List Char) : Option Char :=
  if mode.spaced then
    match text.dropWhile Text.isBlank with
    | '#' :: rest => (rest.dropWhile Text.isBlank).head?
    | rest => rest.head?
  else text.head?

/-- Flags up to the mark that ends them: the mode they make, and the text from that mark
on. `seen` holds the letters so far, the last one first, and the hyphen that turns the
flags after it off. Each may stand once, and the hyphen not last. -/
def readFlags (seen : List Char) (mode : Mode) : List Char → Option (Mode × List Char)
  | [] => none
  | character :: rest =>
    if character == ')' || character == ':' then
      if seen.head? == some '-' || (seen.isEmpty && character == ')') then none
      else some (mode, character :: rest)
    else if seen.contains character then none
    else if character == '-' then readFlags ('-' :: seen) mode rest
    else (mode.flag? character !(seen.contains '-')).bind fun mode =>
      readFlags (character :: seen) mode rest

end Mode
end TreeShell.Pattern
