import TreeShell.Json.Value
import TreeShell.Tree.FileTree

/-! Counts of a tree as JSON and as a table with a frame around it. -/

namespace TreeShell

namespace TreeStats

def toJson (stats : TreeStats) : Json :=
  .object [("folders", .number (.integer stats.folders)), ("files", .number (.integer stats.files)),
    ("executables", .number (.integer stats.executables)),
    ("max_depth", .number (.integer stats.maxDepth))]

def rows (stats : TreeStats) : List (String × String) :=
  [("Folders", toString stats.folders), ("Files", toString stats.files),
    ("Executables", toString stats.executables), ("Max depth", toString stats.maxDepth)]

def padTo (width : Nat) (text : String) : String :=
  text ++ String.ofList (List.replicate (width - text.length) ' ')

def heading : String × String := ("Metric", "Count")

/-- The table: columns as wide as their widest cell, a blank on each side of a cell and one
between the columns. -/
def table (stats : TreeStats) : String :=
  let cells := heading :: stats.rows
  let first := (cells.map (·.1.length)).foldl max 0
  let second := (cells.map (·.2.length)).foldl max 0
  let line (character : Char) := String.ofList (List.replicate (first + second + 5) character)
  let row (cell : String × String) :=
    "│ " ++ padTo first cell.1 ++ "   " ++ padTo second cell.2 ++ " │"
  "\n".intercalate (["┌" ++ line '─' ++ "┐", row heading, "╞" ++ line '═' ++ "╡"] ++
    stats.rows.map row ++ ["└" ++ line '─' ++ "┘"])

end TreeStats
end TreeShell
