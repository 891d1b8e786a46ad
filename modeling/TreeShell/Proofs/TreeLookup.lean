import TreeShell.Proofs.CanonicalPath
import TreeShell.Tree.FileTree

/-! Nodes and the paths that lead to them. In a tree a node stands at the place that
its own path names, so looking a node's path up finds that node again. -/

namespace TreeShell

theorem Children.lookup_of_mem {children : List (String × Node)} {name : String} {child : Node}
    (ascending : Ascending children) (member : (name, child) ∈ children) :
    children.lookup name = some child := by
  obtain ⟨before, after, rfl⟩ := List.append_of_mem member
  refine List.lookup_eq_some_iff.mpr ⟨before, after, rfl, fun entry earlier => ?_⟩
  rw [Ascending, List.pairwise_map] at ascending
  have lower : entry.1 < name :=
    (List.pairwise_append.mp ascending).2.2 entry earlier _ List.mem_cons_self
  exact bne_iff_ne.mpr fun same => absurd (same ▸ lower) (String.lt_irrefl name)

namespace Node
open TreeShell.Path

mutual
/-- What holds of files, and of a folder as soon as it holds of its children, holds of
every node. -/
theorem induction {motive : Node → Prop}
    (file : ∀ name path content executable, motive (.file name path content executable))
    (folder : ∀ name path children, (∀ entry ∈ children, motive entry.2) →
      motive (.folder name path children)) : (node : Node) → motive node
  | .folder name path children =>
    folder name path children (childrenInduction file folder children)
  | .file name path content executable => file name path content executable

theorem childrenInduction {motive : Node → Prop}
    (file : ∀ name path content executable, motive (.file name path content executable))
    (folder : ∀ name path children, (∀ entry ∈ children, motive entry.2) →
      motive (.folder name path children)) :
    (children : List (String × Node)) → ∀ entry ∈ children, motive entry.2
  | [] => nofun
  | (_, child) :: rest => by
    intro entry member
    rcases List.mem_cons.mp member with rfl | later
    · exact induction file folder child
    · exact childrenInduction file folder rest entry later
end

theorem childrenConsistent_iff {parent : String} {children : List (String × Node)} :
    ChildrenConsistent parent children ↔
      ∀ entry ∈ children, Fits parent entry.1 entry.2 ∧ entry.2.Consistent := by
  induction children with
  | nil => simp [ChildrenConsistent]
  | cons head rest ih =>
    obtain ⟨key, child⟩ := head
    simp [ChildrenConsistent, ih, and_assoc]

theorem mem_children_of_child? {node child : Node} {name : String}
    (found : node.child? name = some child) : (name, child) ∈ node.children := by
  obtain ⟨before, after, same, _⟩ := List.lookup_eq_some_iff.mp found
  rw [same]
  exact List.mem_append_right _ List.mem_cons_self

theorem child?_of_mem {node child : Node} {name : String} (ordered : node.Ordered)
    (member : (name, child) ∈ node.children) : node.child? name = some child := by
  cases node with
  | file => cases member
  | folder => exact Children.lookup_of_mem (ordered_folder_iff.mp ordered).1 member

/-- A child below a consistent node: its name fits a path, and it bears the name and
the path of its place. -/
theorem Consistent.child {node child : Node} {name : String} (consistent : node.Consistent)
    (member : (name, child) ∈ node.children) :
    IsName name ∧ child.name = name ∧ child.path = join node.path name ∧ child.Consistent := by
  cases node with
  | file => cases member
  | folder folderName path children =>
    obtain ⟨⟨filled, single, named, placed⟩, below⟩ :=
      childrenConsistent_iff.mp consistent (name, child) member
    exact ⟨⟨filled, single⟩, named, placed, below⟩

theorem Ordered.child {node child : Node} {name : String} (ordered : node.Ordered)
    (member : (name, child) ∈ node.children) : child.Ordered := by
  cases node with
  | file => cases member
  | folder folderName path children => exact (ordered_folder_iff.mp ordered).2 _ member

theorem descend_append (node : Node) (first second : List String) :
    node.descend (first ++ second) =
      (node.descend first).bind fun inner => inner.descend second := by
  induction first generalizing node with
  | nil => rfl
  | cons name rest ih =>
    simp only [List.cons_append, descend]
    cases node.child? name with
    | none => rfl
    | some child => exact ih child

theorem descend_append_of {node inner : Node} {first : List String}
    (reached : node.descend first = some inner) (second : List String) :
    node.descend (first ++ second) = inner.descend second := by
  rw [descend_append, reached]
  rfl

@[simp] theorem descend_single (node : Node) (name : String) :
    node.descend [name] = node.child? name := by
  simp only [descend]
  cases node.child? name <;> rfl

/-- What a descent passes through and reaches: names that fit paths, and a node whose
own path spells them. -/
theorem Consistent.descend {node inner : Node} {names : List String}
    (consistent : node.Consistent) (reached : node.descend names = some inner) :
    (∀ name ∈ names, IsName name) ∧ inner.path = below node.path names ∧ inner.Consistent := by
  induction names generalizing node with
  | nil =>
    cases Option.some.inj reached
    exact ⟨by simp, rfl, consistent⟩
  | cons name rest ih =>
    simp only [Node.descend] at reached
    split at reached
    · cases reached
    · rename_i child found
      obtain ⟨isName, _, placed, inside⟩ := consistent.child (mem_children_of_child? found)
      obtain ⟨later, path, last⟩ := ih inside reached
      refine ⟨?_, ?_, last⟩
      · intro other member
        rcases List.mem_cons.mp member with rfl | deeper
        · exact isName
        · exact later other deeper
      · rw [path, placed]
        rfl

theorem Ordered.descend {node inner : Node} {names : List String} (ordered : node.Ordered)
    (reached : node.descend names = some inner) : inner.Ordered := by
  induction names generalizing node with
  | nil => exact Option.some.inj reached ▸ ordered
  | cons name rest ih =>
    simp only [Node.descend] at reached
    split at reached
    · cases reached
    · rename_i child found
      exact ih (ordered.child (mem_children_of_child? found)) reached

end Node

namespace FileTree
open TreeShell.Path

variable {tree : FileTree} {path : String} {node : Node}

theorem ofNode_root (ordered : tree.root.Ordered) :
    ofNode tree.root ordered = .ok tree := by
  have sound := Node.rootFault?_eq_none_iff.mpr tree.wellFormed
  unfold ofNode
  split
  · rename_i fault found
    rw [sound] at found
    cases found
  · rfl

theorem path_of_descend {names : List String} (reached : tree.root.descend names = some node) :
    (∀ name ∈ names, IsName name) ∧ node.path = below Path.root names := by
  obtain ⟨all, placed, _⟩ := tree.wellFormed.consistent.descend reached
  exact ⟨all, tree.wellFormed.path ▸ placed⟩

theorem lookup_below {names : List String} (all : ∀ name ∈ names, IsName name) :
    tree.lookup (below Path.root names) = tree.root.descend names := by
  rw [lookup, steps_below_root all]

theorem path_of_lookup (found : tree.lookup path = some node) :
    node.path = below Path.root (steps path) :=
  (path_of_descend found).2

theorem lookup_path (found : tree.lookup path = some node) : tree.lookup node.path = some node := by
  rw [path_of_lookup found, lookup_below (path_of_descend found).1]
  exact found

theorem canonical_of_lookup (found : tree.lookup path = some node) : Canonical node.path :=
  ⟨steps path, (path_of_descend found).1, path_of_lookup found⟩

theorem consistent_of_lookup (found : tree.lookup path = some node) : node.Consistent :=
  (tree.wellFormed.consistent.descend found).2.2

theorem ordered_of_lookup (found : tree.lookup path = some node) : node.Ordered :=
  tree.ordered.descend found

/-- The folder of a tree that bears `path` as its own path. -/
structure FolderAt (tree : FileTree) (path : String) (folder : Node) : Prop where
  found : tree.lookup path = some folder
  isFolder : folder.isFolder = true
  path_eq : folder.path = path

theorem folderAt_root (tree : FileTree) : tree.FolderAt Path.root tree.root where
  found := by
    have whole : tree.lookup (below Path.root []) = tree.root.descend [] := lookup_below (by simp)
    exact whole
  isFolder := tree.wellFormed.folder
  path_eq := tree.wellFormed.path

theorem folderAt_of_lookup (found : tree.lookup path = some node)
    (isFolder : node.isFolder = true) : tree.FolderAt node.path node :=
  ⟨lookup_path found, isFolder, rfl⟩

theorem folderAt_of_canonical (canonical : Canonical path) (found : tree.lookup path = some node)
    (isFolder : node.isFolder = true) : tree.FolderAt path node :=
  ⟨found, isFolder, by rw [path_of_lookup found, canonical.below_steps]⟩

namespace FolderAt

theorem canonical (here : tree.FolderAt path node) : Canonical path :=
  here.path_eq ▸ canonical_of_lookup here.found

theorem exists_names (here : tree.FolderAt path node) :
    ∃ names, (∀ name ∈ names, IsName name) ∧ path = below Path.root names ∧
      tree.root.descend names = some node := by
  obtain ⟨names, all, rfl⟩ := here.canonical
  exact ⟨names, all, rfl, lookup_below all ▸ here.found⟩

theorem path_of_descend {names : List String} {inner : Node} (here : tree.FolderAt path node)
    (reached : node.descend names = some inner) :
    (∀ name ∈ names, IsName name) ∧ inner.path = below path names ∧
      tree.lookup inner.path = some inner := by
  obtain ⟨first, all, rfl, start⟩ := here.exists_names
  have whole : tree.root.descend (first ++ names) = some inner :=
    (Node.descend_append_of start names).trans reached
  obtain ⟨spelled, path_eq⟩ := FileTree.path_of_descend whole
  refine ⟨fun name member => spelled name (List.mem_append_right _ member), ?_, ?_⟩
  · rw [path_eq, below_append]
  · rw [path_eq, lookup_below spelled]
    exact whole

theorem child_ne_root {name : String} {child : Node} (here : tree.FolderAt path node)
    (member : (name, child) ∈ node.children) : child ≠ tree.root := by
  intro same
  obtain ⟨isName, _, placed, _⟩ := (consistent_of_lookup here.found).child member
  obtain ⟨names, all, path_eq, _⟩ := here.exists_names
  have spelled : ∀ other ∈ names ++ [name], IsName other :=
    List.forall_mem_append.mpr ⟨all, by simpa using isName⟩
  have whole : below Path.root [] = below Path.root (names ++ [name]) := by
    rw [below_snoc, ← path_eq, ← here.path_eq, ← placed, same, tree.wellFormed.path]
    rfl
  exact absurd (below_root_injective (by simp) spelled whole) (by simp)

end FolderAt
end FileTree
end TreeShell
