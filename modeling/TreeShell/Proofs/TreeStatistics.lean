import Mathlib.Data.Set.Card
import TreeShell.Proofs.NodePaths

/-! Counts of a tree. They are taken on the way down, part by part, and come to what the paths
of the nodes say: how many there are, what stands at them, and how far down they go. -/

namespace TreeShell

namespace Node

mutual
theorem statsAt_counts (depth : Nat) : (node : Node) →
    (node.statsAt depth).folders = node.nodes.countP isFolder ∧
    (node.statsAt depth).files = node.nodes.countP isFile ∧
    (node.statsAt depth).executables = node.nodes.countP isExecutable
  | .folder name path children => by
    obtain ⟨folders, files, executables⟩ := childrenStatsAt_counts (depth + 1) children
    simp only [statsAt, addStats, nodes, List.countP_cons, folders, files, executables]
    simp [isFolder, isFile, isExecutable, Nat.add_comm]
  | .file name path content executable => by
    cases executable <;> exact ⟨rfl, rfl, rfl⟩

theorem childrenStatsAt_counts (depth : Nat) : (children : List (String × Node)) →
    (childrenStatsAt depth children).folders = (childNodes children).countP isFolder ∧
    (childrenStatsAt depth children).files = (childNodes children).countP isFile ∧
    (childrenStatsAt depth children).executables = (childNodes children).countP isExecutable
  | [] => ⟨rfl, rfl, rfl⟩
  | (_, child) :: rest => by
    obtain ⟨folders, files, executables⟩ := statsAt_counts depth child
    obtain ⟨moreFolders, moreFiles, moreExecutables⟩ := childrenStatsAt_counts depth rest
    simp only [childrenStatsAt, addStats, childNodes, List.countP_append, folders, files,
      executables, moreFolders, moreFiles, moreExecutables, and_self]
end

theorem maxDepth_le_of_mem {children : List (String × Node)} {entry : String × Node}
    (member : entry ∈ children) (depth : Nat) :
    (entry.2.statsAt depth).maxDepth ≤ (childrenStatsAt depth children).maxDepth := by
  induction children with
  | nil => cases member
  | cons head rest ih =>
    rcases List.mem_cons.mp member with rfl | later
    · exact Nat.le_max_left _ _
    · exact Nat.le_trans (ih later) (Nat.le_max_right _ _)

theorem Chain.le_maxDepth {node inner : Node} {names : List String}
    (chain : node.Chain names inner) (depth : Nat) :
    depth + names.length ≤ (node.statsAt depth).maxDepth := by
  induction chain generalizing depth with
  | @here node =>
    cases node with
    | folder => exact Nat.le_max_left _ _
    | file => exact Nat.le_refl _
  | @step node child inner name rest member _ ih =>
    cases node with
    | file => cases member
    | folder folderName path children =>
      have below : (child.statsAt (depth + 1)).maxDepth ≤
          (childrenStatsAt (depth + 1) children).maxDepth := maxDepth_le_of_mem member _
      have here : (childrenStatsAt (depth + 1) children).maxDepth ≤
          ((folder folderName path children).statsAt depth).maxDepth := Nat.le_max_right _ _
      have further := ih (depth + 1)
      rw [List.length_cons]
      omega

mutual
theorem exists_deepest (depth : Nat) : (node : Node) →
    ∃ names inner, node.Chain names inner ∧ depth + names.length = (node.statsAt depth).maxDepth
  | .folder name path children => by
    have whole : ((folder name path children).statsAt depth).maxDepth =
        max depth (childrenStatsAt (depth + 1) children).maxDepth := rfl
    rw [whole]
    rcases exists_deepest_child (depth + 1) children with none | deeper
    · exact ⟨[], _, .here, by rw [none]; simp⟩
    · obtain ⟨entry, member, names, inner, chain, deepest⟩ := deeper
      refine ⟨entry.1 :: names, inner, .step member chain, ?_⟩
      rw [List.length_cons, ← deepest]
      omega
  | .file name path content executable => ⟨[], _, .here, rfl⟩

theorem exists_deepest_child (depth : Nat) : (children : List (String × Node)) →
    (childrenStatsAt depth children).maxDepth = 0 ∨
      ∃ entry ∈ children, ∃ names inner, entry.2.Chain names inner ∧
        depth + names.length = (childrenStatsAt depth children).maxDepth
  | [] => .inl rfl
  | (key, child) :: rest => by
    have whole : (childrenStatsAt depth ((key, child) :: rest)).maxDepth =
        max (child.statsAt depth).maxDepth (childrenStatsAt depth rest).maxDepth := rfl
    rw [whole]
    obtain ⟨names, inner, chain, deepest⟩ := exists_deepest depth child
    rcases Nat.lt_or_ge (child.statsAt depth).maxDepth (childrenStatsAt depth rest).maxDepth with
      later | first
    · rcases exists_deepest_child depth rest with none | ⟨entry, member, further⟩
      · omega
      · rw [Nat.max_eq_right (Nat.le_of_lt later)]
        exact .inr ⟨entry, List.mem_cons_of_mem _ member, further⟩
    · rw [Nat.max_eq_left first]
      exact .inr ⟨(key, child), List.mem_cons_self, names, inner, chain, deepest⟩
end

end Node

namespace FileTree
open TreeShell.Path

variable {tree : FileTree} {node : Node}

def paths (tree : FileTree) : Set String :=
  {path | ∃ node ∈ tree.root.nodes, node.path = path}

/-- The paths of a tree at which looking up finds a node of some kind. -/
def pathsWhere (tree : FileTree) (kept : Node → Bool) : Set String :=
  {path ∈ tree.paths | ∃ node, tree.lookup path = some node ∧ kept node = true}

theorem lookup_of_mem_nodes (member : node ∈ tree.root.nodes) :
    tree.lookup node.path = some node ∧ tree.root.Chain (steps node.path) node := by
  obtain ⟨names, chain⟩ := Node.mem_nodes_iff.mp member
  have reached := chain.descend tree.ordered
  obtain ⟨spelled, placed⟩ := path_of_descend reached
  rw [placed, lookup_below spelled, steps_below_root spelled]
  exact ⟨reached, chain⟩

private theorem encard_pathsWhere (tree : FileTree) (kept : Node → Bool) :
    (tree.pathsWhere kept).encard = tree.root.nodes.countP kept := by
  have differ : ((tree.root.nodes.filter kept).map Node.path).Nodup :=
    (Node.nodup_paths tree.wellFormed.consistent tree.ordered).sublist (List.filter_sublist.map _)
  have listed : tree.pathsWhere kept =
      (((tree.root.nodes.filter kept).map Node.path).toFinset : Set String) := by
    ext path
    simp only [List.coe_toFinset, List.mem_map, List.mem_filter]
    constructor
    · rintro ⟨⟨node, member, rfl⟩, found, same, holds⟩
      rw [(lookup_of_mem_nodes member).1] at same
      cases same
      exact ⟨node, ⟨member, holds⟩, rfl⟩
    · rintro ⟨node, ⟨member, holds⟩, rfl⟩
      exact ⟨⟨node, member, rfl⟩, node, (lookup_of_mem_nodes member).1, holds⟩
  rw [listed, Set.encard_coe_eq_coe_finsetCard, List.toFinset_card_of_nodup differ, List.length_map,
    List.countP_eq_length_filter]

theorem encard_paths (tree : FileTree) : tree.paths.encard = tree.root.nodes.length := by
  have every : tree.pathsWhere (fun _ => true) = tree.paths := by
    ext path
    refine ⟨And.left, fun member => ⟨member, ?_⟩⟩
    obtain ⟨node, inside, rfl⟩ := member
    exact ⟨node, (lookup_of_mem_nodes inside).1, rfl⟩
  rw [← every, encard_pathsWhere, List.countP_true]

/-- The counts of a tree are counts of its paths: of all of them, of those where a folder is found,
where a file is, and where a file with the flag is. The greatest depth is that of the paths with
the most names below the root. -/
theorem stats_count_paths (tree : FileTree) :
    tree.paths.encard = tree.stats.folders + tree.stats.files ∧
    (tree.pathsWhere Node.isFolder).encard = tree.stats.folders ∧
    (tree.pathsWhere Node.isFile).encard = tree.stats.files ∧
    (tree.pathsWhere fun node => node.isFile && node.isExecutable).encard = tree.stats.executables ∧
    tree.stats.executables ≤ tree.stats.files ∧ 1 ≤ tree.stats.folders ∧
    IsGreatest {depth | ∃ path ∈ tree.paths, (steps path).length = depth} tree.stats.maxDepth := by
  obtain ⟨folders, files, executables⟩ := Node.statsAt_counts 0 tree.root
  have flagged : ∀ node : Node, node.isExecutable = true → node.isFile = true := by
    intro node holds
    cases node with
    | folder => cases holds
    | file => rfl
  have onlyFiles : (fun node : Node => node.isFile && node.isExecutable) = Node.isExecutable := by
    funext node
    cases holds : node.isExecutable with
    | false => simp
    | true => simp [flagged node holds]
  have parted : tree.root.nodes.length = tree.stats.folders + tree.stats.files := by
    rw [stats, folders, files, List.length_eq_countP_add_countP Node.isFolder]
    simp only [Bool.not_eq_true, Bool.decide_eq_false]
    rfl
  refine ⟨?_, ?_, ?_, ?_, ?_, ?_, ?_, ?_⟩
  · rw [encard_paths, parted]
    rfl
  · rw [encard_pathsWhere, stats, folders]
  · rw [encard_pathsWhere, stats, files]
  · rw [onlyFiles, encard_pathsWhere, stats, executables]
  · rw [stats, executables, files]
    exact List.countP_mono_left fun node _ => flagged node
  · rw [stats, folders]
    exact List.countP_pos_iff.mpr ⟨tree.root, Node.mem_nodes_self _, tree.wellFormed.folder⟩
  · obtain ⟨names, node, chain, deepest⟩ := Node.exists_deepest 0 tree.root
    have member := Node.mem_nodes_iff.mpr ⟨names, chain⟩
    obtain ⟨spelled, placed⟩ := path_of_descend (chain.descend tree.ordered)
    refine ⟨node.path, ⟨node, member, rfl⟩, ?_⟩
    rw [placed, steps_below_root spelled, stats, ← deepest, Nat.zero_add]
  · rintro _ ⟨_, ⟨node, member, rfl⟩, rfl⟩
    have bound := (lookup_of_mem_nodes member).2.le_maxDepth 0
    rwa [Nat.zero_add] at bound

end FileTree
end TreeShell
