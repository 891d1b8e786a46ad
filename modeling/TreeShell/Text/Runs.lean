/-! Cutting text at gaps. Lines are cut into words at blanks and paths into
segments at separators; in both, gaps that touch count as one. -/

namespace TreeShell.Text

def pieces (isGap : Char → Bool) : List Char → List (List Char)
  | [] => [[]]
  | character :: rest =>
    if isGap character then [] :: pieces isGap rest
    else (pieces isGap rest).modifyHead (character :: ·)

def runs (isGap : Char → Bool) (text : String) : List String :=
  ((pieces isGap text.toList).filter (!·.isEmpty)).map String.ofList

end TreeShell.Text
