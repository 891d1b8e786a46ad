import TreeShell.Text.Runs

/-! Paths of the virtual filesystem. Every node of a tree has one canonical path,
the root's path followed by a separator and a name for each step down; what a
user types is looser and is read through the functions below. -/

namespace TreeShell.Path

def separator : Char := '/'

/-- The name that the root goes by in paths. -/
def rootName : String := "Home"

def root : String := "/Home"

/-- The canonical path of the child called `name` of the folder at `parent`. -/
def join (parent name : String) : String :=
  parent ++ "/" ++ name

def splitLast : List Char → Option (List Char × List Char)
  | [] => none
  | character :: rest =>
    match splitLast rest with
    | some (before, after) => some (character :: before, after)
    | none => if character == separator then some ([], rest) else none

/-- The parent of a canonical path. The root has none, nor has a path whose only
separator comes first. -/
def parent? (path : String) : Option String :=
  if path == root then none
  else match splitLast path.toList with
    | none => none
    | some ([], _) => none
    | some (before, _) => some (String.ofList before)

def strip (path : String) : String :=
  match path.toList.reverse with
  | last :: next :: rest =>
    if last == separator then String.ofList (next :: rest).reverse else path
  | _ => path

/-- The names between separators. Separators that touch, open or close a path
count for nothing. -/
def segments (path : String) : List String :=
  Text.runs (· == separator) path

/-- The child names that lead from the root to `path`. One leading root name is
the root itself and not a step. -/
def steps (path : String) : List String :=
  match segments path with
  | [] => []
  | first :: rest => if first == rootName then rest else first :: rest

end TreeShell.Path
