/-! Text inside markup. Five characters that markup gives a meaning are written as
entities, and reading the entities back restores the text. -/

namespace TreeShell.Text

def entity : Char → List Char
  | '&' => "&amp;".toList
  | '<' => "&lt;".toList
  | '>' => "&gt;".toList
  | '"' => "&quot;".toList
  | '\'' => "&#39;".toList
  | character => [character]

def escapeMarkup (text : String) : String :=
  String.ofList (text.toList.flatMap entity)

end TreeShell.Text
