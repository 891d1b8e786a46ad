import TreeShell.Text.Runs

/-! Paths on the disk, as text. A path is read as components: repeated separators
count once, and a lone dot says nothing except where it stands first. -/

namespace TreeShell

abbrev DiskPath := String

namespace DiskPath

inductive Component where
  | root
  | here
  | up
  | name (name : String)
deriving DecidableEq, Repr

def isAbsolute (path : DiskPath) : Bool :=
  path.toList.head? == some '/'

def pieces (path : DiskPath) : List String :=
  Text.runs (· == '/') path

def component (piece : String) : Component :=
  if piece == ".." then .up else .name piece

def components (path : DiskPath) : List Component :=
  let rest := pieces path
  if path.isAbsolute then .root :: (rest.filter (· != ".")).map component
  else match rest with
    | "." :: rest => .here :: (rest.filter (· != ".")).map component
    | rest => (rest.filter (· != ".")).map component

def Component.text : Component → String
  | .root => "/"
  | .here => "."
  | .up => ".."
  | .name given => given

def ofComponents : List Component → DiskPath
  | .root :: rest => "/" ++ "/".intercalate (rest.map Component.text)
  | components => "/".intercalate (components.map Component.text)

/-- The path without its last component; the root and the empty path have none. -/
def parent? (path : DiskPath) : Option DiskPath :=
  match path.components with
  | [] => none
  | [.root] => none
  | components => some (ofComponents components.dropLast)

def fileName? (path : DiskPath) : Option String :=
  match path.components.getLast? with
  | some (.name name) => some name
  | _ => none

def trimSeparators (path : DiskPath) : DiskPath :=
  match path.toList.reverse.dropWhile (· == '/') with
  | [] => if path == "" then "" else "/"
  | rest => String.ofList rest.reverse

def join (path rest : DiskPath) : DiskPath :=
  if rest.isAbsolute then rest
  else if path == "" || path.toList.getLast? == some '/' then path ++ rest
  else path ++ "/" ++ rest

end DiskPath
end TreeShell
