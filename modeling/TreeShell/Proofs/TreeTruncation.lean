import TreeShell.Build.Builder
import TreeShell.Proofs.ChildInsertion

/-! Trees cut off below a number of levels. What stands within them keeps its place, and a folder at the
last of them keeps nothing of what it holds. To put a child into a tree and then cut it off comes to the
same as to cut it off first, unless the child comes to stand below the last level: then it leaves no
trace. -/

namespace TreeShell

namespace Children

variable {change : Node → Node} {name : String} {child : Node} {children : List (String × Node)}

def mapNodes (change : Node → Node) (children : List (String × Node)) : List (String × Node) :=
  children.map fun entry => (entry.1, change entry.2)

private theorem mapNodes_eq_nil_iff : mapNodes change children = [] ↔ children = [] :=
  List.map_eq_nil_iff

theorem lookup_mapNodes : (mapNodes change children).lookup name = (children.lookup name).map change := by
  induction children with
  | nil => rfl
  | cons entry rest ih =>
    obtain ⟨key, node⟩ := entry
    rw [mapNodes, List.map_cons, List.lookup_cons, List.lookup_cons]
    cases name == key with
    | true => rfl
    | false => exact ih

theorem mapNodes_insert :
    mapNodes change (insert name child children) = insert name (change child) (mapNodes change children) := by
  induction children with
  | nil => rfl
  | cons entry rest ih =>
    obtain ⟨key, node⟩ := entry
    simp only [mapNodes, List.map_cons, insert] at ih ⊢
    split
    · rfl
    · split
      · rfl
      · rw [List.map_cons, ih]

theorem Ascending.mapNodes (ascending : Ascending children) : Ascending (mapNodes change children) := by
  simpa [Ascending, Children.mapNodes, Function.comp_def] using ascending

end Children

namespace Node

/-- A node with `levels` levels below it and nothing below these. -/
def truncate : Nat → Node → Node
  | _, .file name path content executable => .file name path content executable
  | 0, .folder name path _ => .folder name path []
  | levels + 1, .folder name path children =>
    .folder name path (Children.mapNodes (truncate levels) children)

variable {node result : Node} {levels : Nat} {names steps : List String} {make : String → Node}

@[simp] theorem name_truncate (levels : Nat) (node : Node) : (node.truncate levels).name = node.name := by
  cases node <;> cases levels <;> rfl

@[simp] theorem path_truncate (levels : Nat) (node : Node) : (node.truncate levels).path = node.path := by
  cases node <;> cases levels <;> rfl

@[simp] theorem isFolder_truncate (levels : Nat) (node : Node) :
    (node.truncate levels).isFolder = node.isFolder := by
  cases node <;> cases levels <;> rfl

private theorem child?_truncate_zero (node : Node) (name : String) : (node.truncate 0).child? name = none := by
  cases node <;> rfl

private theorem child?_truncate_succ (levels : Nat) (node : Node) (name : String) :
    (node.truncate (levels + 1)).child? name = (node.child? name).map (truncate levels) := by
  cases node with
  | file => rfl
  | folder => exact Children.lookup_mapNodes

/-- What stands at some names in a tree that was cut off: what stood there before, itself cut off where the
tree is. -/
theorem descend_truncate (levels : Nat) (node : Node) (names : List String) :
    (node.truncate levels).descend names =
      if names.length ≤ levels then (node.descend names).map (truncate (levels - names.length))
      else none := by
  induction names generalizing levels node with
  | nil => rfl
  | cons name rest ih =>
    cases levels with
    | zero => simp [descend, child?_truncate_zero]
    | succ levels =>
      simp only [descend, child?_truncate_succ, List.length_cons, Nat.add_le_add_iff_right,
        Nat.add_sub_add_right]
      cases node.child? name with
      | none => simp
      | some child => exact ih levels child

theorem descend_truncate_iff {inner : Node} :
    (node.truncate levels).descend names = some inner ↔ names.length ≤ levels ∧
      ∃ original, node.descend names = some original ∧
        inner = original.truncate (levels - names.length) := by
  rw [descend_truncate]
  split
  · rename_i near
    simp [near, Option.map_eq_some_iff, eq_comm (a := inner)]
  · rename_i far
    simp [far]

theorem Ordered.truncate (ordered : node.Ordered) (levels : Nat) : (node.truncate levels).Ordered := by
  induction levels generalizing node with
  | zero =>
    cases node with
    | file => trivial
    | folder => exact ordered_folder_iff.mpr ⟨.nil, by simp⟩
  | succ levels ih =>
    cases node with
    | file => trivial
    | folder name path children =>
      obtain ⟨ascending, below⟩ := ordered_folder_iff.mp ordered
      refine ordered_folder_iff.mpr ⟨ascending.mapNodes, fun entry member => ?_⟩
      obtain ⟨original, there, rfl⟩ := List.mem_map.mp member
      exact ih (below original there)

theorem Consistent.truncate (consistent : node.Consistent) (levels : Nat) :
    (node.truncate levels).Consistent := by
  induction levels generalizing node with
  | zero =>
    cases node with
    | file => trivial
    | folder => exact childrenConsistent_iff.mpr (by simp)
  | succ levels ih =>
    cases node with
    | file => trivial
    | folder name path children =>
      have below := childrenConsistent_iff.mp consistent
      refine childrenConsistent_iff.mpr fun entry member => ?_
      obtain ⟨original, there, rfl⟩ := List.mem_map.mp member
      obtain ⟨fits, inside⟩ := below original there
      exact ⟨by simpa [Fits] using fits, ih inside⟩

theorem WellFormed.truncate (formed : node.WellFormed) (levels : Nat) :
    (node.truncate levels).WellFormed where
  path := (path_truncate levels node).trans formed.path
  folder := (isFolder_truncate levels node).trans formed.folder
  consistent := formed.consistent.truncate levels

theorem truncate_of_childless (childless : node.children = []) (levels : Nat) :
    node.truncate levels = node := by
  cases node with
  | file => cases levels <;> rfl
  | folder =>
    cases childless
    cases levels <;> rfl

/-- Wherever a descent leads, it takes at most so many steps. -/
def Within (node : Node) (levels : Nat) : Prop :=
  ∀ names inner, node.descend names = some inner → names.length ≤ levels

theorem within_truncate (levels : Nat) (node : Node) : (node.truncate levels).Within levels :=
  fun _ _ reached => (descend_truncate_iff.mp reached).1

private theorem within_zero_iff : node.Within 0 ↔ node.children = [] := by
  constructor
  · intro within
    cases seen : node.children with
    | nil => rfl
    | cons entry rest =>
      have found : node.descend [entry.1] = some entry.2 := by
        rw [descend_single, child?, seen, List.lookup_cons_self]
      exact absurd (within _ _ found) (by simp)
  · intro empty names inner reached
    cases names with
    | nil => exact Nat.le_refl 0
    | cons name rest => simp [descend, child?, empty] at reached

private theorem children_truncate_eq_nil_iff : (node.truncate (levels + 1)).children = [] ↔ node.children = [] := by
  cases node with
  | file => exact Iff.rfl
  | folder => exact Children.mapNodes_eq_nil_iff

/-- To keep one level where none is asked for makes a difference as soon as there is something in it. -/
theorem truncate_max_one_eq_iff {bound : Nat} :
    node.truncate (max 1 bound) = node.truncate bound ↔ bound ≠ 0 ∨ node.children = [] := by
  rcases Nat.eq_zero_or_pos bound with rfl | positive
  · cases node with
    | file => simp [truncate, children]
    | folder name path children => simp [truncate, Children.mapNodes_eq_nil_iff, Node.children]
  · rw [Nat.max_eq_right positive]
    exact ⟨fun _ => .inl (Nat.ne_of_gt positive), fun _ => rfl⟩

theorem within_truncate_max_one_iff {bound : Nat} :
    (node.truncate (max 1 bound)).Within bound ↔ bound ≠ 0 ∨ node.children = [] := by
  rcases Nat.eq_zero_or_pos bound with rfl | positive
  · rw [Nat.max_eq_left (Nat.zero_le 1), within_zero_iff, children_truncate_eq_nil_iff]
    simp
  · rw [Nat.max_eq_right positive]
    exact ⟨fun _ => .inl (Nat.ne_of_gt positive), fun _ => within_truncate bound node⟩

theorem placeChild?_nil_eq_some (placed : placeChild? make [] node = some result) :
    ∃ name path children, node = .folder name path children ∧
      result = .folder name path (Children.insert (make path).name (make path) children) := by
  cases node with
  | file => cases placed
  | folder name path children => exact ⟨name, path, children, rfl, (Option.some.inj placed).symm⟩

theorem placeChild?_cons_eq_some {step : String}
    (placed : placeChild? make (step :: steps) node = some result) :
    ∃ name path children next changed, node = .folder name path children ∧
      children.lookup step = some next ∧ placeChild? make steps next = some changed ∧
      result = .folder name path (Children.insert step changed children) := by
  cases node with
  | file => cases placed
  | folder name path children =>
    rw [placeChild?] at placed
    split at placed
    · cases placed
    · rename_i next found
      split at placed
      · cases placed
      · rename_i changed inside
        exact ⟨name, path, children, next, changed, rfl, found, inside, (Option.some.inj placed).symm⟩

/-- A child that comes to stand within the levels is put into what is left of the tree, provided that it
brings nothing that would be cut off. -/
theorem placeChild?_truncate (whole : ∀ path levels, (make path).truncate levels = make path)
    (placed : placeChild? make steps node = some result) (near : steps.length < levels) :
    placeChild? make steps (node.truncate levels) = some (result.truncate levels) := by
  obtain ⟨levels, rfl⟩ := Nat.exists_eq_succ_of_ne_zero (Nat.ne_zero_of_lt near)
  induction steps generalizing node result levels with
  | nil =>
    obtain ⟨name, path, children, rfl, rfl⟩ := placeChild?_nil_eq_some placed
    simp only [truncate, placeChild?, addChild?, Children.mapNodes_insert, whole]
  | cons step rest ih =>
    obtain ⟨name, path, children, next, changed, rfl, found, inside, rfl⟩ :=
      placeChild?_cons_eq_some placed
    have nearer : rest.length < levels := Nat.lt_of_succ_lt_succ near
    obtain ⟨levels, rfl⟩ := Nat.exists_eq_succ_of_ne_zero (Nat.ne_zero_of_lt nearer)
    have kept := ih inside levels nearer
    rw [truncate, placeChild?, Children.lookup_mapNodes, found, Option.map_some]
    simp only [kept, truncate, Children.mapNodes_insert]

theorem truncate_of_placeChild? (ordered : node.Ordered)
    (placed : placeChild? make steps node = some result) (far : levels ≤ steps.length) :
    result.truncate levels = node.truncate levels := by
  induction steps generalizing node result levels with
  | nil =>
    obtain ⟨name, path, children, rfl, rfl⟩ := placeChild?_nil_eq_some placed
    obtain rfl := Nat.le_zero.mp far
    rfl
  | cons step rest ih =>
    obtain ⟨name, path, children, next, changed, rfl, found, inside, rfl⟩ :=
      placeChild?_cons_eq_some placed
    cases levels with
    | zero => rfl
    | succ levels =>
      obtain ⟨ascending, below⟩ := ordered_folder_iff.mp ordered
      have member : (step, next) ∈ children :=
        @mem_children_of_child? (.folder name path children) next step found
      have same := ih (below _ member) inside (Nat.le_of_succ_le_succ far)
      have there : (Children.mapNodes (truncate levels) children).lookup step = some (next.truncate levels) := by
        rw [Children.lookup_mapNodes, found, Option.map_some]
      rw [truncate, truncate, Children.mapNodes_insert, same,
        Children.insert_of_lookup ascending.mapNodes there]

end Node

namespace FileTree

/-- A tree cut off below a number of levels. -/
def truncate (levels : Nat) (tree : FileTree) : FileTree where
  root := tree.root.truncate levels
  ordered := tree.ordered.truncate levels
  wellFormed := tree.wellFormed.truncate levels

theorem truncate_eq_iff {tree : FileTree} {levels other : Nat} :
    tree.truncate levels = tree.truncate other ↔ tree.root.truncate levels = tree.root.truncate other :=
  ⟨congrArg root, fun same => by simp only [truncate, same]⟩

end FileTree
end TreeShell
