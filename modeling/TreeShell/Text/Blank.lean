import TreeShell.Text.Ranges
import TreeShell.Text.Runs

/-! Blank characters and the words between them. A command line is read as its
words and nothing else, so two lines with the same words mean the same command. -/

namespace TreeShell.Text

def blankRanges : Ranges :=
  [(0x09, 0x0D), (0x20, 0x20), (0x85, 0x85), (0xA0, 0xA0), (0x1680, 0x1680), (0x2000, 0x200A),
    (0x2028, 0x2029), (0x202F, 0x202F), (0x205F, 0x205F), (0x3000, 0x3000)]

def isBlank (character : Char) : Bool :=
  blankRanges.contains character

def words (line : String) : List String :=
  runs isBlank line

end TreeShell.Text
