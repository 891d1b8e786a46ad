import TreeShell.Shell.ShellError
import TreeShell.Text.Casing
import TreeShell.Tree.FileTree

/-! What a session says. Every line that is answered leaves one transcript entry: the
line as typed, the folder it was typed in, and the answer. -/

namespace TreeShell

structure ListingEntry where
  name : String
  kind : EntryKind
deriving DecidableEq, Repr

inductive Body where
  | blank
  | text (content : String)
  | help
  | listing (entries : List ListingEntry)
  | matches (candidates : List String)
  | error (cause : ShellError)
deriving DecidableEq, Repr

structure Transcript where
  promptPath : String
  command : String
  body : Body
deriving DecidableEq, Repr

/-- Whether the first entry may come before the second: by lowercase names in
descending order, and by the names themselves where those agree. -/
def ListingEntry.precedes (first second : ListingEntry) : Bool :=
  let firstKey := Text.lowercase first.name
  let secondKey := Text.lowercase second.name
  if firstKey == secondKey then second.name ≤ first.name else secondKey < firstKey

/-- The children of the folder at a path in listing order; elsewhere nothing. -/
def FileTree.listing (tree : FileTree) (path : String) : List ListingEntry :=
  match tree.lookup path with
  | none => []
  | some node =>
    (node.children.map fun (_, child) => ⟨child.name, child.kind⟩).mergeSort ListingEntry.precedes

end TreeShell
