import TreeShell.Proofs.DocumentSpellings

/-! Trees and their documents. A tree's document is read back as that tree wherever the
reader gets to its end, and the reader's nesting limit is a limit on depth: a folder
opens two objects, one for itself and one for its children, and a file opens one. -/

namespace TreeShell

namespace Node

private theorem nesting_toJson_folder (name path : String) (children : List (String × Node)) :
    (Node.folder name path children).toJson.nesting =
      Json.memberNesting (childrenToJson children) + 2 := by
  simp [toJson, Json.nesting, Json.memberNesting]

private theorem nesting_toJson_file (name path content : String) (executable : Bool) :
    (Node.file name path content executable).toJson.nesting = 1 := by
  simp [toJson, Json.nesting, Json.memberNesting]

private theorem memberNesting_childrenToJson_le_iff {children : List (String × Node)} {bound : Nat} :
    Json.memberNesting (childrenToJson children) ≤ bound ↔
      ∀ entry ∈ children, entry.2.toJson.nesting ≤ bound := by
  induction children with
  | nil => simp [childrenToJson, Json.memberNesting]
  | cons entry rest ih =>
    obtain ⟨key, child⟩ := entry
    rw [childrenToJson, Json.memberNesting, Nat.max_le, ih, List.forall_mem_cons]

/-- How many objects are open at the deepest place that a node at some depth opens. -/
def levels (depth : Nat) (node : Node) : Nat :=
  2 * depth + if node.isFolder then 2 else 1

theorem nesting_toJson_le_iff (node : Node) : node.Ordered → ∀ bound,
    (node.toJson.nesting ≤ bound ↔
      ∀ names inner, node.descend names = some inner → inner.levels names.length ≤ bound) := by
  induction node using Node.induction with
  | file name path content executable =>
    intro _ bound
    rw [nesting_toJson_file]
    constructor
    · intro fits names inner reached
      cases names with
      | nil =>
        cases Option.some.inj reached
        exact fits
      | cons first rest => cases reached
    · intro all
      exact all [] _ rfl
  | folder name path children ih =>
    intro ordered bound
    rw [nesting_toJson_folder]
    constructor
    · intro fits names inner reached
      cases names with
      | nil =>
        cases Option.some.inj reached
        simp only [levels, isFolder, List.length_nil, if_true]
        omega
      | cons first rest =>
        simp only [descend] at reached
        split at reached
        · cases reached
        · rename_i child found
          have member := mem_children_of_child? found
          have inside : Json.memberNesting (childrenToJson children) ≤ bound - 2 := by omega
          have shallow := memberNesting_childrenToJson_le_iff.mp inside _ member
          have below := (ih _ member (ordered.child member) _).mp shallow rest inner reached
          simp only [levels, List.length_cons] at below ⊢
          omega
    · intro all
      have two : 2 ≤ bound := all [] _ rfl
      have inside : Json.memberNesting (childrenToJson children) ≤ bound - 2 := by
        refine memberNesting_childrenToJson_le_iff.mpr fun entry member => ?_
        refine (ih entry member (ordered.child member) _).mpr fun names inner reached => ?_
        have deeper : (Node.folder name path children).descend (entry.1 :: names) = some inner := by
          rw [descend, child?_of_mem ordered member]
          exact reached
        have below := all _ _ deeper
        simp only [levels, List.length_cons] at below ⊢
        omega
      omega

end Node

namespace FileTree

/-- No folder of a tree is deeper than 62 and no file deeper than 63, the root being at
depth zero. -/
def Shallow (tree : FileTree) : Prop :=
  ∀ names node, tree.root.descend names = some node →
    names.length ≤ if node.isFolder then 62 else 63

theorem shallow_iff (tree : FileTree) :
    tree.Shallow ↔ tree.root.toJson.nesting < Json.nestingLimit := by
  have depth (node : Node) (count : Nat) :
      (count ≤ if node.isFolder then 62 else 63) ↔ node.levels count ≤ 127 := by
    unfold Node.levels
    cases node.isFolder <;> simp <;> omega
  have limit : tree.root.toJson.nesting < Json.nestingLimit ↔ tree.root.toJson.nesting ≤ 127 :=
    Nat.lt_succ_iff
  rw [limit, Node.nesting_toJson_le_iff tree.root tree.ordered]
  simp only [Shallow, depth]

theorem ofJson_toJson (tree : FileTree) : ofJson tree.root.toJson = .ok tree :=
  ofJson_of_spells (Node.spells_toJson tree.root)

/-- A tree's document is read back as that tree if the tree is shallow, and is refused
as malformed if it is not; its bytes are read as its text is. -/
theorem document_round_trip (tree : FileTree) :
    (ofDocument tree.toDocument = .ok tree ↔ tree.Shallow) ∧
    (ofDocument tree.toDocument = .error .malformed ↔ ¬tree.Shallow) ∧
    ofBytes (Text.Utf8.encode tree.toDocument) = ofDocument tree.toDocument := by
  have bytes : ofBytes (Text.Utf8.encode tree.toDocument) = ofDocument tree.toDocument := by
    rw [ofBytes, Text.Utf8.decode?_encode]
  have read : Json.ofText? tree.toDocument = if tree.root.toJson.nesting < Json.nestingLimit
      then some tree.root.toJson else none :=
    Json.ofText?_toPrettyText (Node.numberless_toJson tree.root)
  by_cases shallow : tree.Shallow
  · have answered : ofDocument tree.toDocument = .ok tree := by
      rw [ofDocument, read, if_pos (tree.shallow_iff.mp shallow)]
      exact tree.ofJson_toJson
    rw [answered] at bytes ⊢
    exact ⟨iff_of_true rfl shallow, iff_of_false (by simp) (not_not_intro shallow), bytes⟩
  · have refused : ofDocument tree.toDocument = .error .malformed := by
      rw [ofDocument, read, if_neg fun fits => shallow (tree.shallow_iff.mpr fits)]
    rw [refused] at bytes ⊢
    exact ⟨iff_of_false (by simp) shallow, iff_of_true rfl shallow, bytes⟩

end FileTree
end TreeShell
