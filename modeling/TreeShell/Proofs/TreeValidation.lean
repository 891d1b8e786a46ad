import Mathlib.Data.List.Lex
import TreeShell.Proofs.NodePaths

/-! The check that makes a tree out of a node. It walks the entries depth first and stops at the
first one that breaks a rule. An entry has the keys that lead to it as its address, and the walk
goes through the addresses in dictionary order, so the fault that it answers is the one at the
least of them. -/

namespace TreeShell

namespace Node

/-- A rule that the entry of a folder at `parent` breaks. The rule about the key comes before the
one about the name, and that before the one about the path. -/
inductive Breach (parent key : String) (child : Node) : TreeFault → Prop where
  | key (unfit : key = "" ∨ '/' ∈ key.toList) : Breach parent key child (.badName key parent)
  | name (filled : key ≠ "") (single : '/' ∉ key.toList) (differs : child.name ≠ key) :
      Breach parent key child (.nameMismatch key child.name parent)
  | path (filled : key ≠ "") (single : '/' ∉ key.toList) (named : child.name = key)
      (elsewhere : child.path ≠ parent ++ "/" ++ key) :
      Breach parent key child (.pathMismatch child.path (parent ++ "/" ++ key))

/-- The entry at an address breaks a rule. The last key of the address stands in the folder that
the keys before it lead to. -/
def BreachAt (root : Node) (address : List String) (fault : TreeFault) : Prop :=
  ∃ keys folder key child, address = keys ++ [key] ∧ root.Chain keys folder ∧
    (key, child) ∈ folder.children ∧ Breach folder.path key child fault

/-- The entry at the address is the first in depth-first order that breaks a rule. -/
structure FirstBreach (root : Node) (address : List String) (fault : TreeFault) : Prop where
  breach : root.BreachAt address fault
  first : ∀ other found, root.BreachAt other found → ¬List.Lex (· < ·) other address

/-- The first fault of a node that is to be the root of a tree. -/
inductive FirstFault (root : Node) : TreeFault → Prop where
  | path (elsewhere : root.path ≠ "/Home") : FirstFault root (.rootPath root.path)
  | kind (home : root.path = "/Home") (file : root.isFolder = false) :
      FirstFault root .rootNotFolder
  | entry {address : List String} {fault : TreeFault} (home : root.path = "/Home")
      (folder : root.isFolder = true) (least : root.FirstBreach address fault) :
      FirstFault root fault

/-- A folder at the root path. Every entry of every folder below it stands under a key that a path
can hold, and its node bears that key as its name and the path that leads there. -/
structure Sound (root : Node) : Prop where
  home : root.path = "/Home"
  folder : root.isFolder = true
  entries : ∀ keys folder key child, root.Chain keys folder → (key, child) ∈ folder.children →
    key ≠ "" ∧ '/' ∉ key.toList ∧ child.name = key ∧ child.path = folder.path ++ "/" ++ key

variable {root node child : Node} {name path parent key : String} {address : List String}
  {children rest : List (String × Node)} {fault : TreeFault}

theorem placeFault?_eq_some_iff :
    placeFault? parent key child = some fault ↔ Breach parent key child fault := by
  unfold placeFault?
  constructor
  · intro found
    split at found
    · rename_i unfit
      cases found
      exact .key (by simpa [Path.separator] using unfit)
    · rename_i fit
      obtain ⟨filled, single⟩ : key ≠ "" ∧ '/' ∉ key.toList := by
        simpa [Path.separator] using fit
      split at found
      · rename_i differs
        cases found
        exact .name filled single (by simpa using differs)
      · rename_i named
        split at found
        · rename_i elsewhere
          cases found
          exact .path filled single (by simpa using named) (bne_iff_ne.mp elsewhere)
        · cases found
  · intro breach
    cases breach with
    | key unfit =>
      rw [if_pos]
      simpa [Path.separator] using unfit
    | name filled single differs =>
      rw [if_neg, if_pos]
      · simpa using differs
      · simpa [Path.separator] using ⟨filled, single⟩
    | path filled single named elsewhere =>
      rw [if_neg, if_neg, if_pos]
      · rfl
      · exact bne_iff_ne.mpr elsewhere
      · simpa using named
      · simpa [Path.separator] using ⟨filled, single⟩

theorem Breach.unique {other : TreeFault} (one : Breach parent key child fault)
    (two : Breach parent key child other) : fault = other := by
  rw [← placeFault?_eq_some_iff] at one two
  exact Option.some.inj (one.symm.trans two)

theorem Fits.no_breach (fits : Fits parent key child) : ¬Breach parent key child fault := by
  rw [← placeFault?_eq_some_iff, placeFault?_eq_none_iff.mpr fits]
  exact nofun

theorem Chain.consistent {names : List String} (chain : root.Chain names node)
    (consistent : root.Consistent) : node.Consistent := by
  induction chain with
  | here => exact consistent
  | step member _ ih => exact ih (consistent.child member).2.2.2

theorem consistent_iff_fits : root.Consistent ↔ ∀ keys folder key child,
    root.Chain keys folder → (key, child) ∈ folder.children → Fits folder.path key child := by
  constructor
  · intro consistent keys folder key child chain member
    obtain ⟨isName, named, placed, _⟩ := (chain.consistent consistent).child member
    exact ⟨isName.filled, isName.single, named, placed⟩
  · induction root using Node.induction with
    | file => exact fun _ => trivial
    | folder name path children ih =>
      intro fits
      refine childrenConsistent_iff.mpr fun entry member => ⟨fits [] _ _ _ .here member, ?_⟩
      apply ih entry member
      intro keys folder key child chain inside
      exact fits (entry.1 :: keys) folder key child (.step member chain) inside

theorem wellFormed_iff_sound : root.WellFormed ↔ root.Sound :=
  ⟨fun formed => ⟨formed.path, formed.folder, consistent_iff_fits.mp formed.consistent⟩,
    fun sound => ⟨sound.home, sound.folder, consistent_iff_fits.mpr sound.entries⟩⟩

theorem breachAt_iff : node.BreachAt address fault ↔ ∃ key child, (key, child) ∈ node.children ∧
    (address = [key] ∧ Breach node.path key child fault ∨
      ∃ later, address = key :: later ∧ child.BreachAt later fault) := by
  constructor
  · rintro ⟨keys, folder, key, child, rfl, chain, member, breach⟩
    cases chain with
    | here => exact ⟨key, child, member, .inl ⟨rfl, breach⟩⟩
    | @step _ next _ first rest opened later =>
      exact ⟨first, next, opened, .inr ⟨rest ++ [key], rfl, rest, folder, key, child, rfl, later,
        member, breach⟩⟩
  · rintro ⟨key, child, member, ⟨rfl, breach⟩ | ⟨later, rfl, keys, folder, last, inner, rfl, chain,
      inside, breach⟩⟩
    · exact ⟨[], node, key, child, rfl, .here, member, breach⟩
    · exact ⟨key :: keys, folder, last, inner, rfl, .step member chain, inside, breach⟩

theorem breachAt_cons_iff : (folder name path ((key, child) :: rest)).BreachAt address fault ↔
    address = [key] ∧ Breach path key child fault ∨
      (∃ later, address = key :: later ∧ child.BreachAt later fault) ∨
      (folder name path rest).BreachAt address fault := by
  simp only [@breachAt_iff (folder _ _ _), children, List.mem_cons, Prod.mk.injEq]
  constructor
  · rintro ⟨other, inner, ⟨rfl, rfl⟩ | member, found⟩
    · exact found.imp id .inl
    · exact .inr (.inr ⟨other, inner, member, found⟩)
  · rintro (here | below | ⟨other, inner, member, found⟩)
    · exact ⟨key, child, .inl ⟨rfl, rfl⟩, .inl here⟩
    · exact ⟨key, child, .inl ⟨rfl, rfl⟩, .inr below⟩
    · exact ⟨other, inner, .inr member, found⟩

theorem Consistent.no_breachAt (consistent : node.Consistent) : ¬node.BreachAt address fault := by
  rintro ⟨keys, folder, key, child, _, chain, member, breach⟩
  exact (consistent_iff_fits.mp consistent keys folder key child chain member).no_breach breach

/-- An address among later entries does not come before one that the first key begins. -/
private theorem not_lex_of_later {above other : List String}
    (ascending : ∀ entry ∈ rest, key < entry.1) (breach : (folder name path rest).BreachAt other fault) :
    ¬List.Lex (· < ·) other (key :: above) := by
  obtain ⟨later, inner, member, found⟩ := breachAt_iff.mp breach
  have behind : key < later := ascending _ member
  obtain ⟨tail, rfl⟩ : ∃ tail, other = later :: tail := by
    rcases found with ⟨same, _⟩ | ⟨tail, same, _⟩
    · exact ⟨[], same⟩
    · exact ⟨tail, same⟩
  intro earlier
  cases earlier with
  | rel before => exact String.lt_irrefl key (String.lt_trans behind before)
  | cons => exact String.lt_irrefl key behind

/-- What is found among the children of a folder is their first breach, if it is so in each. -/
private theorem exists_firstBreach_children (ascending : Children.Ascending children)
    (each : ∀ entry ∈ children, ∀ fault, entry.2.fault? = some fault →
      ∃ address, entry.2.FirstBreach address fault)
    (found : childrenFault? path children = some fault) :
    ∃ address, (folder name path children).FirstBreach address fault := by
  induction children with
  | nil => cases found
  | cons entry rest ih =>
    obtain ⟨key, child⟩ := entry
    obtain ⟨behind, ascends⟩ := Children.ascending_cons.mp ascending
    rw [childrenFault?, Option.or_eq_some_iff, Option.or_eq_some_iff] at found
    rcases found with here | ⟨placed, below | ⟨sound, later⟩⟩
    · refine ⟨[key], breachAt_cons_iff.mpr (.inl ⟨rfl, placeFault?_eq_some_iff.mp here⟩), ?_⟩
      intro other fault breach earlier
      rcases breachAt_cons_iff.mp breach with ⟨rfl, _⟩ | ⟨deeper, rfl, _⟩ | after
      · exact List.lex_irrefl String.lt_irrefl _ earlier
      · cases earlier with
        | rel before => exact String.lt_irrefl key before
        | cons rest => cases rest
      · exact not_lex_of_later behind after earlier
    · obtain ⟨address, breach, first⟩ := each _ List.mem_cons_self _ below
      refine ⟨key :: address, breachAt_cons_iff.mpr (.inr (.inl ⟨address, rfl, breach⟩)), ?_⟩
      intro other fault breach earlier
      rcases breachAt_cons_iff.mp breach with ⟨_, misplaced⟩ | ⟨deeper, rfl, inside⟩ | after
      · exact (placeFault?_eq_none_iff.mp placed).no_breach misplaced
      · cases earlier with
        | rel before => exact String.lt_irrefl key before
        | cons before => exact first deeper fault inside before
      · exact not_lex_of_later behind after earlier
    · obtain ⟨address, breach, first⟩ := ih ascends
        (fun entry member => each entry (List.mem_cons_of_mem _ member)) later
      refine ⟨address, breachAt_cons_iff.mpr (.inr (.inr breach)), ?_⟩
      intro other fault breach earlier
      rcases breachAt_cons_iff.mp breach with ⟨_, misplaced⟩ | ⟨_, _, inside⟩ | after
      · exact (placeFault?_eq_none_iff.mp placed).no_breach misplaced
      · exact (fault?_eq_none_iff child |>.mp sound).no_breachAt inside
      · exact first other fault after earlier

theorem exists_firstBreach (ordered : node.Ordered) (found : node.fault? = some fault) :
    ∃ address, node.FirstBreach address fault := by
  induction node using Node.induction generalizing fault with
  | file => cases found
  | folder name path children ih =>
    refine exists_firstBreach_children ordered.1 (fun entry member fault inside => ?_) found
    exact ih entry member (ordered.child member) inside

theorem BreachAt.unique {other : TreeFault} (ordered : root.Ordered)
    (one : root.BreachAt address fault) (two : root.BreachAt address other) : fault = other := by
  obtain ⟨keys, folder, key, child, rfl, chain, member, breach⟩ := one
  obtain ⟨keys', folder', key', child', same, chain', member', breach'⟩ := two
  obtain ⟨rfl, last⟩ := List.append_inj' same rfl
  cases last
  have reached := chain.descend ordered
  obtain rfl := Option.some.inj (reached.symm.trans (chain'.descend ordered))
  have ordered := ordered.descend reached
  have first := child?_of_mem ordered member
  have second := child?_of_mem ordered member'
  obtain rfl := Option.some.inj (first.symm.trans second)
  exact breach.unique breach'

theorem FirstBreach.unique {other : List String} {found : TreeFault} (ordered : root.Ordered)
    (one : root.FirstBreach address fault) (two : root.FirstBreach other found) :
    fault = found := by
  have keys : Std.Trichotomous (α := String) (· < ·) :=
    ⟨fun first second above below => by
      by_contra differ
      exact below (Children.lt_of_not_lt_of_ne above differ)⟩
  have same : address = other :=
    Std.Trichotomous.trichotomous (r := List.Lex (· < ·)) address other
      (two.first address fault one.breach) (one.first other found two.breach)
  subst same
  exact one.breach.unique ordered two.breach

theorem fault?_eq_some_iff (ordered : node.Ordered) :
    node.fault? = some fault ↔ ∃ address, node.FirstBreach address fault := by
  refine ⟨exists_firstBreach ordered, fun ⟨address, least⟩ => ?_⟩
  cases found : node.fault? with
  | none => exact absurd least.breach ((fault?_eq_none_iff node).mp found).no_breachAt
  | some other =>
    obtain ⟨_, first⟩ := exists_firstBreach ordered found
    rw [first.unique ordered least]

theorem rootFault?_eq_some_iff (ordered : root.Ordered) :
    root.rootFault? = some fault ↔ root.FirstFault fault := by
  unfold rootFault?
  constructor
  · intro found
    split at found
    · rename_i elsewhere
      cases found
      exact .path (bne_iff_ne.mp elsewhere)
    · rename_i placed
      have home : root.path = "/Home" := not_not.mp fun elsewhere => placed (bne_iff_ne.mpr elsewhere)
      split at found
      · rename_i file
        cases found
        exact .kind home (by simpa [isFile] using file)
      · rename_i folder
        obtain ⟨address, least⟩ := (fault?_eq_some_iff ordered).mp found
        exact .entry home (by simpa [isFile] using folder) least
  · intro first
    cases first with
    | path elsewhere => exact if_pos (bne_iff_ne.mpr elsewhere)
    | kind home file =>
      rw [if_neg, if_pos]
      · simp [isFile, file]
      · exact fun elsewhere => bne_iff_ne.mp elsewhere home
    | entry home folder least =>
      rw [if_neg, if_neg]
      · exact (fault?_eq_some_iff ordered).mpr ⟨_, least⟩
      · simp [isFile, folder]
      · exact fun elsewhere => bne_iff_ne.mp elsewhere home

end Node

namespace FileTree

variable {root : Node} {tree : FileTree} {fault : TreeFault}

theorem ofNode_eq_error_iff (ordered : root.Ordered) :
    ofNode root ordered = .error fault ↔ root.rootFault? = some fault := by
  unfold ofNode
  split
  · rename_i other found
    rw [found]
    constructor
    · intro same
      cases same
      rfl
    · intro same
      cases same
      rfl
  · rename_i sound
    constructor
    · exact nofun
    · intro found
      rw [sound] at found
      cases found

theorem root_of_ofNode {ordered : root.Ordered} (made : ofNode root ordered = .ok tree) :
    tree.root = root := by
  unfold ofNode at made
  split at made
  · cases made
  · cases made
    rfl

/-- A node becomes the root of a tree, and stays as it is, exactly if it is sound. Otherwise the
answer is its first fault in depth-first order. So the root of every tree is sound, whether the
tree was read from a document, built from a directory or found in a slot. -/
theorem ofNode_accepts_sound_nodes (ordered : root.Ordered) :
    ((∃ tree, ofNode root ordered = .ok tree) ↔ root.Sound) ∧
    (∀ tree, ofNode root ordered = .ok tree → tree.root = root) ∧
    (∀ fault, ofNode root ordered = .error fault ↔ root.FirstFault fault) ∧
    ∀ tree : FileTree, tree.root.Sound := by
  have sound (tree : FileTree) : tree.root.Sound := Node.wellFormed_iff_sound.mp tree.wellFormed
  refine ⟨⟨?_, fun accepted => ?_⟩, fun tree made => root_of_ofNode made, fun fault => ?_, sound⟩
  · rintro ⟨tree, made⟩
    exact root_of_ofNode made ▸ sound tree
  · let tree : FileTree := ⟨root, ordered, Node.wellFormed_iff_sound.mpr accepted⟩
    exact ⟨tree, @ofNode_root tree ordered⟩
  · rw [ofNode_eq_error_iff, Node.rootFault?_eq_some_iff ordered]

/-- A file that calls itself otherwise than its folder does, before a misplaced one. -/
def misnamedRoot : Node :=
  .folder "Home" "/Home"
    [("Docs", .folder "Docs" "/Home/Docs" [("plan", .file "draft" "/Home/Docs/draft" "" false)]),
      ("notes", .file "notes" "/notes" "" false)]

theorem misnamedRoot_refused : ∃ ordered : misnamedRoot.Ordered,
    ofNode misnamedRoot ordered = .error (.nameMismatch "plan" "draft" "/Home/Docs") ∧
      misnamedRoot.FirstFault (.nameMismatch "plan" "draft" "/Home/Docs") ∧
      ¬misnamedRoot.Sound := by
  have names : ["Docs", "notes"].Pairwise (· < ·) := by decide
  have alone : ["plan"].Pairwise (· < ·) := List.pairwise_singleton _ _
  have ordered : misnamedRoot.Ordered := ⟨names, ⟨alone, trivial, trivial⟩, trivial, trivial⟩
  obtain ⟨accepted, _, refused, _⟩ := ofNode_accepts_sound_nodes ordered
  have found : ofNode misnamedRoot ordered = .error (.nameMismatch "plan" "draft" "/Home/Docs") := rfl
  refine ⟨ordered, found, (refused _).mp found, fun sound => ?_⟩
  obtain ⟨tree, made⟩ := accepted.mpr sound
  rw [found] at made
  cases made

end FileTree
end TreeShell
