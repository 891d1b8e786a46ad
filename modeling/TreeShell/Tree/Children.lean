import TreeShell.Tree.Node

/-! The children of a folder, kept under ascending names. Insertion and collection
both keep that order, so a folder built through them holds one child to a name. -/

namespace TreeShell

namespace Children

/-- Names ascend strictly, so no name comes twice. -/
def Ascending (children : List (String × Node)) : Prop :=
  (children.map Prod.fst).Pairwise (· < ·)

/-- Put a child under a name, in place of any that is there. -/
def insert (name : String) (child : Node) : List (String × Node) → List (String × Node)
  | [] => [(name, child)]
  | (key, node) :: rest =>
    if name < key then (name, child) :: (key, node) :: rest
    else if name = key then (name, child) :: rest
    else (key, node) :: insert name child rest

def insertNew (name : String) (child : Node) : List (String × Node) → List (String × Node)
  | [] => [(name, child)]
  | (key, node) :: rest =>
    if name < key then (name, child) :: (key, node) :: rest
    else if name = key then (key, node) :: rest
    else (key, node) :: insertNew name child rest

/-- Entries in any order as children; of entries with one name the last stays. -/
def collect (entries : List (String × Node)) : List (String × Node) :=
  entries.foldr (fun (name, child) rest => insertNew name child rest) []

theorem mem_insert {name : String} {child : Node} {children : List (String × Node)}
    {entry : String × Node} (member : entry ∈ insert name child children) :
    entry = (name, child) ∨ entry ∈ children := by
  induction children with
  | nil => simpa [insert] using member
  | cons head rest ih =>
    obtain ⟨key, node⟩ := head
    simp only [insert] at member
    split at member
    · simpa using member
    · split at member
      · rcases List.mem_cons.mp member with same | inside
        · exact .inl same
        · exact .inr (List.mem_cons_of_mem _ inside)
      · rcases List.mem_cons.mp member with same | inside
        · exact .inr (same ▸ List.mem_cons_self)
        · exact (ih inside).imp_right (List.mem_cons_of_mem _)

theorem mem_insertNew {name : String} {child : Node} {children : List (String × Node)}
    {entry : String × Node} (member : entry ∈ insertNew name child children) :
    entry = (name, child) ∨ entry ∈ children := by
  induction children with
  | nil => simpa [insertNew] using member
  | cons head rest ih =>
    obtain ⟨key, node⟩ := head
    simp only [insertNew] at member
    split at member
    · simpa using member
    · split at member
      · exact .inr member
      · rcases List.mem_cons.mp member with same | inside
        · exact .inr (same ▸ List.mem_cons_self)
        · exact (ih inside).imp_right (List.mem_cons_of_mem _)

theorem mem_collect {entries : List (String × Node)} {entry : String × Node}
    (member : entry ∈ collect entries) : entry ∈ entries := by
  induction entries with
  | nil => simp [collect] at member
  | cons head rest ih =>
    rcases mem_insertNew member with same | inside
    · exact same ▸ List.mem_cons_self
    · exact List.mem_cons_of_mem _ (ih inside)

theorem ascending_cons {key : String} {node : Node} {rest : List (String × Node)} :
    Ascending ((key, node) :: rest) ↔ (∀ entry ∈ rest, key < entry.1) ∧ Ascending rest := by
  simp [Ascending]

theorem lt_of_not_lt_of_ne {first second : String} (above : ¬first < second)
    (differ : first ≠ second) : second < first := by
  rcases Decidable.em (second < first) with below | notBelow
  · exact below
  · exact absurd (String.le_antisymm (String.not_lt.mp notBelow) (String.not_lt.mp above)) differ

theorem ascending_insert {name : String} {child : Node} {children : List (String × Node)}
    (ascending : Ascending children) : Ascending (insert name child children) := by
  induction children with
  | nil => simp [insert, Ascending]
  | cons head rest ih =>
    obtain ⟨key, node⟩ := head
    obtain ⟨below, ordered⟩ := ascending_cons.mp ascending
    simp only [insert]
    split
    · rename_i first
      refine ascending_cons.mpr ⟨fun entry member => ?_, ascending⟩
      rcases List.mem_cons.mp member with rfl | inside
      · exact first
      · exact String.lt_trans first (below entry inside)
    · split
      · rename_i same
        exact ascending_cons.mpr ⟨fun entry member => same ▸ below entry member, ordered⟩
      · rename_i above differ
        refine ascending_cons.mpr ⟨fun entry member => ?_, ih ordered⟩
        rcases mem_insert member with rfl | inside
        · exact lt_of_not_lt_of_ne above differ
        · exact below entry inside

theorem ascending_insertNew {name : String} {child : Node} {children : List (String × Node)}
    (ascending : Ascending children) : Ascending (insertNew name child children) := by
  induction children with
  | nil => simp [insertNew, Ascending]
  | cons head rest ih =>
    obtain ⟨key, node⟩ := head
    obtain ⟨below, ordered⟩ := ascending_cons.mp ascending
    simp only [insertNew]
    split
    · rename_i first
      refine ascending_cons.mpr ⟨fun entry member => ?_, ascending⟩
      rcases List.mem_cons.mp member with rfl | inside
      · exact first
      · exact String.lt_trans first (below entry inside)
    · split
      · exact ascending
      · rename_i above differ
        refine ascending_cons.mpr ⟨fun entry member => ?_, ih ordered⟩
        rcases mem_insertNew member with rfl | inside
        · exact lt_of_not_lt_of_ne above differ
        · exact below entry inside

theorem ascending_collect (entries : List (String × Node)) : Ascending (collect entries) := by
  induction entries with
  | nil => simp [collect, Ascending]
  | cons head rest ih => exact ascending_insertNew ih

end Children

namespace Node

mutual
def Ordered : Node → Prop
  | .folder _ _ children => Children.Ascending children ∧ ChildrenOrdered children
  | .file .. => True

def ChildrenOrdered : List (String × Node) → Prop
  | [] => True
  | (_, child) :: rest => child.Ordered ∧ ChildrenOrdered rest
end

theorem childrenOrdered_iff {children : List (String × Node)} :
    ChildrenOrdered children ↔ ∀ entry ∈ children, entry.2.Ordered := by
  induction children with
  | nil => simp [ChildrenOrdered]
  | cons head rest ih => obtain ⟨key, node⟩ := head; simp [ChildrenOrdered, ih]

theorem ordered_folder_iff {name path : String} {children : List (String × Node)} :
    (folder name path children).Ordered ↔
      Children.Ascending children ∧ ∀ entry ∈ children, entry.2.Ordered := by
  simp [Ordered, childrenOrdered_iff]

/-- A folder called `name` under the folder at `parent`, holding `children` under
their own names. -/
def folderUnder (parent name : String) (children : List Node) : Node :=
  .folder name (Path.join parent name)
    (Children.collect (children.map fun child => (child.name, child)))

def fileUnder (parent name content : String) (executable : Bool) : Node :=
  .file name (Path.join parent name) content executable

def rootFolder (children : List Node) : Node :=
  .folder Path.rootName Path.root
    (Children.collect (children.map fun child => (child.name, child)))

theorem ordered_collected {name path : String} {children : List Node}
    (ordered : ∀ child ∈ children, child.Ordered) :
    (folder name path
      (Children.collect (children.map fun child => (child.name, child)))).Ordered := by
  refine ordered_folder_iff.mpr ⟨Children.ascending_collect _, fun entry member => ?_⟩
  obtain ⟨child, inside, rfl⟩ := List.mem_map.mp (Children.mem_collect member)
  exact ordered child inside

/-- Put a child into a folder under its own name, in place of any that is there. A
file takes no children. -/
def addChild? (child : Node) : Node → Option Node
  | .folder name path children =>
    some (.folder name path (Children.insert child.name child children))
  | .file .. => none

theorem ordered_addChild {child parent result : Node} (childOrdered : child.Ordered)
    (parentOrdered : parent.Ordered) (added : addChild? child parent = some result) :
    result.Ordered := by
  cases parent with
  | file => simp [addChild?] at added
  | folder name path children =>
    obtain ⟨ascending, below⟩ := ordered_folder_iff.mp parentOrdered
    cases Option.some.inj added
    refine ordered_folder_iff.mpr ⟨Children.ascending_insert ascending, fun entry member => ?_⟩
    rcases Children.mem_insert member with rfl | inside
    · exact childOrdered
    · exact below entry inside

end Node
end TreeShell
