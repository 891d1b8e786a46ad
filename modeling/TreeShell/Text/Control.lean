import TreeShell.Text.Ranges

/-! Control characters and their removal. A terminal acts on control characters,
so text that is not trusted reaches it without them. -/

namespace TreeShell.Text

/-- The control characters: both ranges of the general category Cc. -/
def controlRanges : Ranges :=
  [(0x00, 0x1F), (0x7F, 0x9F)]

def isControl (character : Char) : Bool :=
  controlRanges.contains character

def isShown (character : Char) : Bool :=
  character == '\n' || character == '\t' || !isControl character

/-- Text without control characters other than newline and tab. -/
def stripControl (text : String) : String :=
  String.ofList (text.toList.filter isShown)

end TreeShell.Text
