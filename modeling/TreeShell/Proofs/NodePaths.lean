import TreeShell.Proofs.TreeLookup

/-! Nodes and the names that lead to them. Each name on a path is one step down, so the
nodes of a tree, taken in depth-first order, have paths that all differ, and a path typed
in any way leads to the node that its names spell or to none. -/

namespace TreeShell

namespace Path

def namesBetween (path : String) : List String :=
  ((path.toList.splitOn separator).filter (!·.isEmpty)).map String.ofList

/-- Names without the root's own name in front, which is dropped once. -/
def dropRootName : List String → List String
  | "Home" :: names => names
  | names => names

theorem pieces_eq_splitOnP (isGap : Char → Bool) (text : List Char) :
    Text.pieces isGap text = text.splitOnP isGap := by
  induction text with
  | nil => rfl
  | cons character rest ih => rw [Text.pieces, ih, List.splitOnP_cons_eq_if_modifyHead]

theorem segments_eq_namesBetween (path : String) : segments path = namesBetween path := by
  rw [segments, Text.runs, pieces_eq_splitOnP]
  rfl

theorem steps_eq_dropRootName (path : String) : steps path = dropRootName (namesBetween path) := by
  rw [steps, segments_eq_namesBetween]
  cases namesBetween path with
  | nil => rfl
  | cons first rest =>
    by_cases opened : first = rootName
    · subst opened
      rfl
    · have kept : dropRootName (first :: rest) = first :: rest := by
        unfold dropRootName
        split
        · rename_i same
          exact absurd (List.cons.inj same).1 opened
        · rfl
      simp [kept, opened]

theorem below_eq_join (path : String) (names : List String) :
    below path names = path ++ String.join (names.map ("/" ++ ·)) := by
  induction names generalizing path with
  | nil => simp [below]
  | cons name rest ih =>
    have later : below path (name :: rest) = _ := ih (join path name)
    rw [later, List.map_cons, String.join_cons, join]
    simp only [String.append_assoc]

private theorem below_injective {path : String} {first second : List String}
    (one : ∀ name ∈ first, IsName name) (two : ∀ name ∈ second, IsName name)
    (same : below path first = below path second) : first = second := by
  have spelled := congrArg segments same
  rw [segments_below one, segments_below two] at spelled
  exact List.append_cancel_left spelled

end Path

namespace Node
open TreeShell.Path

/-- Stepping down through children of these names in turn leads from one node to another. -/
inductive Chain : Node → List String → Node → Prop where
  | here {node} : Chain node [] node
  | step {node child inner name rest} (member : (name, child) ∈ node.children)
      (later : Chain child rest inner) : Chain node (name :: rest) inner

theorem Chain.of_descend {node inner : Node} {names : List String}
    (reached : node.descend names = some inner) : node.Chain names inner := by
  induction names generalizing node with
  | nil =>
    cases Option.some.inj reached
    exact .here
  | cons name rest ih =>
    simp only [descend] at reached
    split at reached
    · cases reached
    · rename_i child found
      exact .step (mem_children_of_child? found) (ih reached)

theorem Chain.descend {node inner : Node} {names : List String} (chain : node.Chain names inner)
    (ordered : node.Ordered) : node.descend names = some inner := by
  induction chain with
  | here => rfl
  | step member later ih =>
    rw [Node.descend, child?_of_mem ordered member]
    exact ih (ordered.child member)

mutual
/-- A node and all below it, parents first and siblings in order. -/
def nodes : Node → List Node
  | .folder name path children => .folder name path children :: childNodes children
  | .file name path content executable => [.file name path content executable]

def childNodes : List (String × Node) → List Node
  | [] => []
  | (_, child) :: rest => child.nodes ++ childNodes rest
end

theorem mem_childNodes_iff {children : List (String × Node)} {inner : Node} :
    inner ∈ childNodes children ↔ ∃ entry ∈ children, inner ∈ entry.2.nodes := by
  induction children with
  | nil => simp [childNodes]
  | cons entry rest ih =>
    obtain ⟨key, child⟩ := entry
    simp [childNodes, ih]

theorem mem_nodes_self (node : Node) : node ∈ node.nodes := by
  cases node with
  | folder => exact List.mem_cons_self
  | file => exact List.mem_cons_self

private theorem mem_nodes_of_child {node child inner : Node} {name : String}
    (member : (name, child) ∈ node.children) (inside : inner ∈ child.nodes) :
    inner ∈ node.nodes := by
  cases node with
  | folder folderName path children =>
    exact List.mem_cons_of_mem _ (mem_childNodes_iff.mpr ⟨_, member, inside⟩)
  | file => cases member

theorem mem_nodes_iff {node inner : Node} : inner ∈ node.nodes ↔ ∃ names, node.Chain names inner := by
  constructor
  · induction node using Node.induction with
    | file name path content executable =>
      intro member
      cases List.mem_singleton.mp member
      exact ⟨[], .here⟩
    | folder name path children ih =>
      intro member
      rcases List.mem_cons.mp member with rfl | below
      · exact ⟨[], .here⟩
      · obtain ⟨entry, inside, deeper⟩ := mem_childNodes_iff.mp below
        obtain ⟨names, chain⟩ := ih entry inside deeper
        exact ⟨entry.1 :: names, .step inside chain⟩
  · rintro ⟨names, chain⟩
    induction chain with
    | here => exact mem_nodes_self _
    | step member _ ih => exact mem_nodes_of_child member ih

theorem path_of_mem_nodes {node inner : Node} (consistent : node.Consistent)
    (ordered : node.Ordered) (member : inner ∈ node.nodes) :
    ∃ names, (∀ name ∈ names, IsName name) ∧ inner.path = below node.path names := by
  obtain ⟨names, chain⟩ := mem_nodes_iff.mp member
  obtain ⟨spelled, placed, _⟩ := consistent.descend (chain.descend ordered)
  exact ⟨names, spelled, placed⟩

theorem path_of_mem_child {node child inner : Node} {name : String} (consistent : node.Consistent)
    (ordered : node.Ordered) (member : (name, child) ∈ node.children)
    (inside : inner ∈ child.nodes) :
    ∃ names, (∀ other ∈ name :: names, IsName other) ∧
      inner.path = below node.path (name :: names) := by
  obtain ⟨isName, _, placed, deeper⟩ := consistent.child member
  obtain ⟨names, spelled, path_eq⟩ := path_of_mem_nodes deeper (ordered.child member) inside
  refine ⟨names, List.forall_mem_cons.mpr ⟨isName, spelled⟩, ?_⟩
  rw [path_eq, placed]
  rfl

theorem nodup_childPaths {node : Node} {shown : List (String × Node)} (consistent : node.Consistent)
    (ordered : node.Ordered) (among : shown ⊆ node.children) (ascending : Children.Ascending shown)
    (each : ∀ entry ∈ shown, (entry.2.nodes.map path).Nodup) :
    ((childNodes shown).map path).Nodup := by
  induction shown with
  | nil => simp [childNodes]
  | cons entry rest ih =>
    obtain ⟨key, child⟩ := entry
    obtain ⟨above, ascends⟩ := Children.ascending_cons.mp ascending
    have member : (key, child) ∈ node.children := among List.mem_cons_self
    have later : rest ⊆ node.children := fun _ kept => among (List.mem_cons_of_mem _ kept)
    rw [childNodes, List.map_append, List.nodup_append]
    refine ⟨each _ List.mem_cons_self,
      ih later ascends fun _ kept => each _ (List.mem_cons_of_mem _ kept), ?_⟩
    intro first one second two same
    subst same
    obtain ⟨inner, inside, rfl⟩ := List.mem_map.mp one
    obtain ⟨other, otherInside, samePath⟩ := List.mem_map.mp two
    obtain ⟨entry, entryMember, deeper⟩ := mem_childNodes_iff.mp otherInside
    obtain ⟨names, spelled, placed⟩ := path_of_mem_child consistent ordered member inside
    obtain ⟨others, otherSpelled, otherPlaced⟩ :=
      path_of_mem_child consistent ordered (later entryMember) deeper
    have named : key :: names = entry.1 :: others :=
      below_injective spelled otherSpelled (placed.symm.trans (samePath.symm.trans otherPlaced))
    have lower : key < entry.1 := above entry entryMember
    rw [(List.cons.inj named).1] at lower
    exact String.lt_irrefl _ lower

theorem nodup_paths {node : Node} (consistent : node.Consistent) (ordered : node.Ordered) :
    (node.nodes.map path).Nodup := by
  induction node using Node.induction with
  | file name path content executable => simp [nodes]
  | folder name path children ih =>
    have each : ∀ entry ∈ children, (entry.2.nodes.map Node.path).Nodup := by
      intro entry member
      exact ih entry member (consistent.child member).2.2.2 (ordered.child member)
    rw [nodes, List.map_cons, List.nodup_cons]
    refine ⟨fun member => ?_,
      nodup_childPaths consistent ordered (List.Subset.refl _) ordered.1 each⟩
    obtain ⟨inner, inside, samePath⟩ := List.mem_map.mp member
    obtain ⟨entry, entryMember, deeper⟩ := mem_childNodes_iff.mp inside
    obtain ⟨names, spelled, placed⟩ := path_of_mem_child consistent ordered entryMember deeper
    have still : below path [] = below path (entry.1 :: names) := samePath.symm.trans placed
    exact absurd (below_injective (by simp) spelled still) nofun

end Node

namespace FileTree
open TreeShell.Path

/-- Looking up the path of a node finds that node, no two nodes have one path, and what a
path finds is what its names lead to: the node at their end, whose own path spells them. -/
theorem lookup_exact (tree : FileTree) :
    (∀ node ∈ tree.root.nodes, tree.lookup node.path = some node) ∧
    (tree.root.nodes.map Node.path).Nodup ∧
    ∀ path, let names := dropRootName (namesBetween path)
      (∀ node, tree.lookup path = some node ↔ tree.root.Chain names node) ∧
      (∀ node, tree.lookup path = some node →
        node.path = Path.root ++ String.join (names.map ("/" ++ ·))) ∧
      (tree.lookup path = none ↔ ¬∃ node, tree.root.Chain names node) := by
  have found (path : String) (node : Node) :
      tree.lookup path = some node ↔ tree.root.Chain (dropRootName (namesBetween path)) node := by
    rw [lookup, steps_eq_dropRootName]
    exact ⟨Node.Chain.of_descend, fun chain => chain.descend tree.ordered⟩
  refine ⟨fun node member => ?_, Node.nodup_paths tree.wellFormed.consistent tree.ordered,
    fun path => ⟨found path, fun node reached => ?_, ?_⟩⟩
  · obtain ⟨names, chain⟩ := Node.mem_nodes_iff.mp member
    have reached := chain.descend tree.ordered
    obtain ⟨spelled, placed⟩ := path_of_descend reached
    rw [placed, lookup_below spelled]
    exact reached
  · rw [path_of_lookup reached, steps_eq_dropRootName, below_eq_join]
  · rw [Option.eq_none_iff_forall_ne_some, not_exists]
    exact forall_congr' fun node => not_congr (found path node)

end FileTree
end TreeShell
