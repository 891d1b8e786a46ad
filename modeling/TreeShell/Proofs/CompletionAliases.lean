import TreeShell.Proofs.CompletionResolution

/-! Completion behind an alias. The typed parent is resolved by itself, aliases included,
but a candidate is resolved as a whole, and inside of it an alias is a name like any
other. So a candidate leads to its child only where the alias is no step at all. -/

namespace TreeShell
open TreeShell.Path Completion

/-- The arguments that resolve to the parent of the working directory. -/
def Path.parentAliases : List String :=
  ["..", "../"]

/-- The arguments that resolve to the root. -/
def Path.rootAliases : List String :=
  ["", "/", "Home", "Home/", "/Home", "/Home/"]

theorem Path.strip_mem {path name : String} (same : strip path = name) :
    path ∈ [name, name ++ "/"] := by
  rcases strip_cases path with ⟨whole, _⟩ | ⟨closed, _⟩
  · simp [← same, whole]
  · simp [← same, ← closed]

theorem Path.isRelative_iff {argument : String} :
    IsRelative argument ↔ argument ∉ parentAliases ++ rootAliases := by
  constructor
  · intro relative aliased
    have named : argument ∈ ["..", "../", "", "/", "Home", "Home/", "/Home", "/Home/"] := aliased
    simp only [List.mem_cons, List.not_mem_nil, or_false] at named
    obtain ⟨filled, notSlash, notParent, notRoot, notRootName⟩ := relative
    rcases named with rfl | rfl | rfl | rfl | rfl | rfl | rfl | rfl
    · exact notParent (by decide)
    · exact notParent (by decide)
    · exact filled rfl
    · exact notSlash rfl
    · exact notRootName (by decide)
    · exact notRootName (by decide)
    · exact notRoot (by decide)
    · exact notRoot (by decide)
  · intro notAliased
    have listed {name : String} {names : List String} (inside : name ∈ names)
        (all : names ⊆ parentAliases ++ rootAliases) : name ∈ parentAliases ++ rootAliases :=
      all inside
    constructor
    · rintro rfl
      exact notAliased (by decide)
    · rintro rfl
      exact notAliased (by decide)
    · exact fun same => notAliased (listed (strip_mem same) (by decide))
    · exact fun same => notAliased (listed (strip_mem same) (by decide))
    · exact fun same => notAliased (listed (strip_mem same) (by decide))

namespace FileTree

variable {tree : FileTree} {current line command before term : String} {here folder child : Node}

theorem resolve_rootAlias (aliased : before ∈ rootAliases) :
    tree.resolve current (some before) = .ok tree.root := by
  simp only [rootAliases, List.mem_cons, List.not_mem_nil, or_false] at aliased
  rcases aliased with rfl | rfl | rfl | rfl | rfl | rfl <;> rfl

theorem resolve_of_parentAlias (aliased : before ∈ parentAliases) :
    tree.resolve current (some before) = match parent? current with
      | none => .error .noParentDirectory
      | some path => tree.locate path before := by
  have aliasedUp : (before == "" || before == "/") = false ∧ strip before = ".." := by
    simp only [parentAliases, List.mem_cons, List.not_mem_nil, or_false] at aliased
    rcases aliased with rfl | rfl
    all_goals decide
  obtain ⟨filled, up⟩ := aliasedUp
  cases above : parent? current with
  | none => simp [resolve, filled, up, above]
  | some path => simp [resolve, filled, up, above]

private theorem resolve_parentAlias (aliased : before ∈ parentAliases)
    (resolved : tree.resolve current (some before) = .ok folder) :
    ∃ path, parent? current = some path ∧ tree.lookup path = some folder := by
  rw [resolve_of_parentAlias aliased] at resolved
  cases above : parent? current with
  | none =>
    rw [above] at resolved
    cases resolved
  | some path =>
    rw [above] at resolved
    exact ⟨path, rfl, locate_eq_ok_iff.mp resolved⟩

private theorem not_descend_parentAlias (isHere : tree.FolderAt current here)
    (parental : before ∈ parentAliases) (searches : tree.Searches current (some before) folder) :
    here.descend (segments before) ≠ some folder := by
  intro down
  obtain ⟨spelled, path_eq, _⟩ := isHere.path_of_descend down
  obtain ⟨path, above, found⟩ := resolve_parentAlias parental searches.1
  obtain ⟨names, all, rfl, _⟩ := isHere.exists_names
  rcases List.eq_nil_or_concat names with rfl | ⟨shorter, last, ended⟩
  · cases parent?_root.symm.trans above
  · obtain rfl := ended.trans (List.concat_eq_append ..)
    have shorterNames : ∀ name ∈ shorter, IsName name :=
      fun name member => all name (List.mem_append_left _ member)
    have longerNames : ∀ name ∈ shorter ++ [last] ++ segments before, IsName name :=
      List.forall_mem_append.mpr ⟨all, spelled⟩
    obtain rfl := Option.some.inj ((parent?_below_root all).symm.trans above)
    rw [path_of_lookup found, steps_below_root shorterNames, ← below_append] at path_eq
    have counted := congrArg List.length (below_root_injective shorterNames longerNames path_eq)
    simp only [List.length_append, List.length_singleton] at counted
    omega

private theorem descend_rootAlias_iff (isHere : tree.FolderAt current here)
    (rooted : before ∈ rootAliases) (searches : tree.Searches current (some before) folder) :
    here.descend (segments before) = some folder ↔
      current = Path.root ∧ segments before = [] := by
  obtain rfl : tree.root = folder :=
    Except.ok.inj ((resolve_rootAlias rooted).symm.trans searches.1)
  constructor
  · intro down
    obtain ⟨spelled, path_eq, _⟩ := isHere.path_of_descend down
    obtain ⟨names, all, rfl, _⟩ := isHere.exists_names
    have allNames : ∀ name ∈ names ++ segments before, IsName name :=
      List.forall_mem_append.mpr ⟨all, spelled⟩
    rw [tree.wellFormed.path, ← below_append] at path_eq
    have empty : names ++ segments before = [] :=
      below_root_injective allNames (by simp) path_eq.symm
    obtain ⟨rfl, nameless⟩ := List.append_eq_nil_iff.mp empty
    exact ⟨rfl, nameless⟩
  · rintro ⟨rfl, nameless⟩
    have same := Option.some.inj (isHere.found.symm.trans tree.folderAt_root.found)
    rw [nameless, same]
    rfl

private theorem segments_rootAlias_eq_nil_iff (rooted : before ∈ rootAliases) :
    segments before = [] ↔ before = "/" ∨ before = "" := by
  simp only [rootAliases, List.mem_cons, List.not_mem_nil, or_false] at rooted
  rcases rooted with rfl | rfl | rfl | rfl | rfl | rfl <;> decide

/-- An alias that is read as names leads to the folder that it stands for only if it
has no names and that folder is where it starts. -/
theorem descend_alias_iff (isHere : tree.FolderAt current here)
    (aliased : before ∈ parentAliases ++ rootAliases)
    (searches : tree.Searches current (some before) folder) :
    here.descend (segments before) = some folder ↔
      current = Path.root ∧ (before = "/" ∨ before = "") := by
  rcases List.mem_append.mp aliased with parental | rooted
  · refine iff_of_false (not_descend_parentAlias isHere parental searches) ?_
    rintro ⟨_, rfl | rfl⟩ <;> exact absurd parental (by decide)
  · rw [descend_rootAlias_iff isHere rooted searches, segments_rootAlias_eq_nil_iff rooted]

private theorem resolve_candidate_rootName (isName : IsName child.name) (named : child.name = rootName) :
    tree.resolve current (some (candidate (some "") child)) = .ok tree.root := by
  have stripped : strip (candidate (some "") child) = Path.root := by
    rw [strip_candidate isName, named]
    rfl
  simp [resolve, stripped, show Path.root ≠ ".." by decide]

/-- Behind an alias, completion agrees with resolution exactly if the alias is `/`, or
is empty and the child does not bear the root's name, and the working directory is the
root. Anywhere else the candidate that is offered does not lead to its child. -/
theorem completion_behind_alias (isHere : tree.FolderAt current here)
    (asks : Asks line command (some before) term)
    (aliased : before ∈ parentAliases ++ rootAliases) :
    ((∃ missing, tree.complete current line = .noSuchDirectory missing) ↔
      ¬∃ folder, tree.Searches current (some before) folder) ∧
    ∀ folder, tree.Searches current (some before) folder →
      ∃ matched, tree.Completes current line command (some before) term folder matched ∧
        ∀ child ∈ matched,
          (tree.resolve current (some (candidate (some before) child)) = .ok child ↔
            current = Path.root ∧ (before = "/" ∨ before = "" ∧ child.name ≠ rootName)) := by
  refine ⟨complete_eq_noSuchDirectory_iff isHere asks, fun folder searches => ?_⟩
  have completes := completes_of_searches isHere asks searches
  refine ⟨_, completes, fun child matched => ?_⟩
  have member := ((completes.mem_iff child).mp matched).1
  have consistent := consistent_of_lookup searches.folderAt.found
  have isName := (consistent.child member).1
  rcases Decidable.em (before = "" ∧ child.name = rootName) with ⟨rfl, named⟩ | other
  · refine iff_of_false (fun resolved => ?_) (by simp [named])
    have top := Except.ok.inj ((resolve_candidate_rootName isName named).symm.trans resolved)
    exact searches.folderAt.child_ne_root member top.symm
  · have relative : IsRelative (candidate (some before) child) := by
      refine isRelative_candidate isName nofun fun empty named => other ?_
      exact ⟨Option.some.inj empty, named⟩
    rw [resolve_candidate_iff isHere searches member relative,
      show (some before).getD "" = before from rfl, descend_alias_iff isHere aliased searches]
    refine and_congr_right fun _ => or_congr_right ?_
    exact ⟨fun empty => ⟨empty, fun named => other ⟨empty, named⟩⟩, And.left⟩

/-- In a folder of the sample, completion writes a path that resolution refuses. -/
theorem candidate_behind_parent_refused :
    sampleTree.FolderAt "/Home/Docs" sampleDocs ∧ Asks "cat ../re" "cat" (some "..") "re" ∧
      sampleTree.complete "/Home/Docs" "cat ../re" = .replace "cat ../readme" ∧
      candidate (some "..") sampleReadme = "../readme" ∧
      sampleTree.resolve "/Home/Docs" (some "..") = .ok sampleTree.root ∧
      ("readme", sampleReadme) ∈ sampleTree.root.children ∧
      sampleTree.resolve "/Home/Docs" (some "../readme") = .error (.noSuchPath "../readme") :=
  ⟨⟨by decide, rfl, rfl⟩, ⟨⟨"../re", [], by decide, by decide⟩, by decide⟩, by decide, by decide,
    rfl, by decide, rfl⟩

theorem completion_behind_root_in_sampleTree :
    sampleTree.FolderAt Path.root sampleTree.root ∧ Asks "cat /re" "cat" (some "") "re" ∧
      "" ∈ parentAliases ++ rootAliases ∧ ∃ matched,
        sampleTree.Completes Path.root "cat /re" "cat" (some "") "re" sampleTree.root matched ∧
          sampleReadme ∈ matched ∧ sampleTree.resolve Path.root (some "/readme") = .ok sampleReadme := by
  have isHere := sampleTree.folderAt_root
  have asks : Asks "cat /re" "cat" (some "") "re" :=
    ⟨⟨"/re", [], by decide, by decide⟩, by decide⟩
  have aliased : "" ∈ parentAliases ++ rootAliases := by decide
  have searches : sampleTree.Searches Path.root (some "") sampleTree.root := ⟨rfl, rfl⟩
  obtain ⟨matched, completes, resolves⟩ :=
    (completion_behind_alias isHere asks aliased).2 sampleTree.root searches
  have member : sampleReadme ∈ matched := (completes.mem_iff sampleReadme).mpr (by decide)
  refine ⟨isHere, asks, aliased, matched, completes, member, ?_⟩
  exact (resolves sampleReadme member).mpr ⟨rfl, .inr ⟨rfl, by decide⟩⟩

end FileTree
end TreeShell
