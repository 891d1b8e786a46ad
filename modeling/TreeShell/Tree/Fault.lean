import TreeShell.Tree.Children
import TreeShell.Text.Quoted

/-! What keeps a node from being the root of a tree. A check walks the nodes in
order, parents first, and answers the first fault that it meets. -/

namespace TreeShell

inductive TreeFault where
  | rootPath (found : String)
  | rootNotFolder
  | badName (name parent : String)
  | nameMismatch (key name parent : String)
  | pathMismatch (found expected : String)
  | fileWithChild (path : String)
  | missingParent (relative : String)
  | linkLoop (path : String)
deriving DecidableEq

open Text in
def TreeFault.message : TreeFault → String
  | .rootPath found => s!"root path must be {Path.root}, got {found}"
  | .rootNotFolder => "root must be a folder"
  | .badName name parent => s!"invalid child name {quoted name} under {parent}"
  | .nameMismatch key name parent =>
    s!"child key {quoted key} does not match node name {quoted name} under {parent}"
  | .pathMismatch found expected => s!"node path {found} should be {expected}"
  | .fileWithChild path => s!"{path} is a file, not a folder"
  | .missingParent relative => s!"parent folder missing for {relative}"
  | .linkLoop path => s!"filesystem loop detected at {path}"

namespace Node

/-- A child fits its place: its key is a name that a path can hold, and its own name
and path are the ones that the place gives it. -/
def Fits (parent key : String) (child : Node) : Prop :=
  key ≠ "" ∧ Path.separator ∉ key.toList ∧ child.name = key ∧ child.path = Path.join parent key

mutual
def Consistent : Node → Prop
  | .folder _ path children => ChildrenConsistent path children
  | .file .. => True

def ChildrenConsistent (parent : String) : List (String × Node) → Prop
  | [] => True
  | (key, child) :: rest =>
    Fits parent key child ∧ child.Consistent ∧ ChildrenConsistent parent rest
end

/-- What is wrong with the place of one child, the name that it stands under first. -/
def placeFault? (parent key : String) (child : Node) : Option TreeFault :=
  if key.isEmpty || key.toList.contains Path.separator then some (.badName key parent)
  else if child.name != key then some (.nameMismatch key child.name parent)
  else if child.path != Path.join parent key then
    some (.pathMismatch child.path (Path.join parent key))
  else none

mutual
def fault? : Node → Option TreeFault
  | .folder _ path children => childrenFault? path children
  | .file .. => none

def childrenFault? (parent : String) : List (String × Node) → Option TreeFault
  | [] => none
  | (key, child) :: rest =>
    (placeFault? parent key child).or (child.fault?.or (childrenFault? parent rest))
end

/-- The first fault of a node that is to be the root of a tree. -/
def rootFault? (root : Node) : Option TreeFault :=
  if root.path != Path.root then some (.rootPath root.path)
  else if root.isFile then some .rootNotFolder
  else root.fault?

/-- A folder at the root path below which every child fits its place. -/
structure WellFormed (root : Node) : Prop where
  path : root.path = Path.root
  folder : root.isFolder = true
  consistent : root.Consistent

theorem placeFault?_eq_none_iff {parent key : String} {child : Node} :
    placeFault? parent key child = none ↔ Fits parent key child := by
  unfold placeFault? Fits
  by_cases unnamed : (key.isEmpty || key.toList.contains Path.separator) = true
  · rw [if_pos unnamed]
    refine ⟨by simp, fun ⟨filled, single, _, _⟩ => ?_⟩
    rcases Bool.or_eq_true_iff.mp unnamed with empty | divided
    · exact absurd (String.isEmpty_iff.mp empty) filled
    · exact absurd (List.contains_iff_mem.mp divided) single
  · rw [if_neg unnamed]
    have named : key ≠ "" ∧ Path.separator ∉ key.toList := by
      refine ⟨fun empty => unnamed ?_, fun divided => unnamed ?_⟩
      · simp [empty]
      · rw [List.contains_iff_mem.mpr divided, Bool.or_true]
    by_cases name : child.name = key
    · by_cases path : child.path = Path.join parent key
      · simp [name, path, named]
      · simp [name, path]
    · simp [name]

mutual
theorem fault?_eq_none_iff : (node : Node) → (node.fault? = none ↔ node.Consistent)
  | .folder _ path children => by
    simpa [fault?, Consistent] using childrenFault?_eq_none_iff path children
  | .file .. => by simp [fault?, Consistent]

theorem childrenFault?_eq_none_iff (parent : String) : (children : List (String × Node)) →
    (childrenFault? parent children = none ↔ ChildrenConsistent parent children)
  | [] => by simp [childrenFault?, ChildrenConsistent]
  | (key, child) :: rest => by
    simp only [childrenFault?, ChildrenConsistent, Option.or_eq_none_iff,
      placeFault?_eq_none_iff, fault?_eq_none_iff child, childrenFault?_eq_none_iff parent rest]
end

theorem rootFault?_eq_none_iff {root : Node} : root.rootFault? = none ↔ root.WellFormed := by
  unfold rootFault?
  split
  · rename_i elsewhere
    exact ⟨by simp, fun formed => absurd formed.path (by simpa using elsewhere)⟩
  · rename_i placed
    split
    · rename_i file
      exact ⟨by simp, fun formed => absurd formed.folder (by simpa [isFile] using file)⟩
    · rename_i folder
      rw [fault?_eq_none_iff]
      exact ⟨fun consistent => ⟨by simpa using placed, by simpa [isFile] using folder, consistent⟩,
        WellFormed.consistent⟩

end Node
end TreeShell
