import TreeShell.Text.Runs

/-! Lines of an input as it is read. -/

namespace TreeShell.Text

def dropCarriage (line : List Char) : List Char :=
  if line.getLast? == some '\r' then line.dropLast else line

/-- The lines of an input. Each ends with a line feed, and a carriage return before that
is no part of it; the last line may go without, unless it is empty. -/
def inputLines (input : String) : List String :=
  let pieces := pieces (· == '\n') input.toList
  (pieces.dropLast.map dropCarriage ++ pieces.getLast?.toList.filter (!·.isEmpty)).map String.ofList

def trimLineFeeds (text : String) : String :=
  String.ofList (text.toList.reverse.dropWhile (· == '\n')).reverse

end TreeShell.Text
