import TreeShell.Tree.Fault

/-! A checked tree. Its invariants are part of the type, so every function that
takes a tree may rely on them and no function can break them. -/

namespace TreeShell

structure FileTree where
  root : Node
  ordered : root.Ordered
  wellFormed : root.WellFormed

/-- Counts of a tree's nodes. The root is a folder at depth zero. -/
structure TreeStats where
  folders : Nat
  files : Nat
  executables : Nat
  maxDepth : Nat
deriving DecidableEq, Repr

namespace FileTree

instance : DecidableEq FileTree := fun first second =>
  if same : first.root = second.root then
    .isTrue (by cases first; cases second; cases same; rfl)
  else .isFalse fun equal => same (equal ▸ rfl)

/-- The tree below `root`, or the first fault that keeps it from being one. -/
def ofNode (root : Node) (ordered : root.Ordered) : Except TreeFault FileTree :=
  match found : root.rootFault? with
  | some fault => .error fault
  | none => .ok ⟨root, ordered, Node.rootFault?_eq_none_iff.mp found⟩

/-- The node that a path leads to from the root. -/
def lookup (tree : FileTree) (path : String) : Option Node :=
  tree.root.descend (Path.steps path)

end FileTree

namespace Node

def addStats (first second : TreeStats) : TreeStats where
  folders := first.folders + second.folders
  files := first.files + second.files
  executables := first.executables + second.executables
  maxDepth := max first.maxDepth second.maxDepth

mutual
def statsAt (depth : Nat) : Node → TreeStats
  | .folder _ _ children => addStats ⟨1, 0, 0, depth⟩ (childrenStatsAt (depth + 1) children)
  | .file _ _ _ executable => ⟨0, 1, if executable then 1 else 0, depth⟩

def childrenStatsAt (depth : Nat) : List (String × Node) → TreeStats
  | [] => ⟨0, 0, 0, 0⟩
  | (_, child) :: rest => addStats (child.statsAt depth) (childrenStatsAt depth rest)
end

end Node

def FileTree.stats (tree : FileTree) : TreeStats :=
  tree.root.statsAt 0

end TreeShell
