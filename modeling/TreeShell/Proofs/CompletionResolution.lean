import TreeShell.Proofs.CompletionCandidates

/-! Completion beside resolution. Completion takes an argument apart, searches a folder
and puts candidates together; submitting a candidate takes it apart again. Both meet on
one node exactly where the typed parent is also a way down to the searched folder. -/

namespace TreeShell.FileTree
open TreeShell.Path Completion

variable {tree : FileTree} {current line command term : String} {parent : Option String}
  {here folder child : Node}

/-- The folder that is searched: what the parent resolves to, or the working directory. -/
def Searches (tree : FileTree) (current : String) : Option String → Node → Prop
  | none, folder => tree.FolderAt current folder
  | some parent, folder => tree.resolve current (some parent) = .ok folder ∧ folder.isFolder = true

/-- Completing a line offers `matched` behind the typed parent: the children of the
folder whose names begin with the term, each once and in the byte order of names. -/
structure Completes (tree : FileTree) (current line command : String) (parent : Option String)
    (term : String) (folder : Node) (matched : List Node) : Prop where
  offers : Offers command (tree.complete current line) (matched.map (candidate parent))
  ascend : matched.Pairwise fun first second =>
    Text.Utf8.encode first.name < Text.Utf8.encode second.name
  mem_iff : ∀ child, child ∈ matched ↔
    (child.name, child) ∈ folder.children ∧ term.toList <+: child.name.toList
  distinct : (matched.map (candidate parent)).Nodup

theorem Searches.folderAt (searches : tree.Searches current parent folder) :
    tree.FolderAt folder.path folder := by
  cases parent with
  | none => exact searches.path_eq.symm ▸ searches
  | some parent => exact folderAt_of_resolveFolder (resolveFolder_eq_ok_iff.mpr searches)

/-- The folder that completion searches, as it finds it. -/
def searched? (tree : FileTree) (current : String) : Option String → Option Node
  | none => some (tree.folderOrRoot current)
  | some parent => (tree.resolveFolder current (some parent)).toOption

/-- The folder that is looked in from any path of a folder: what the typed parent resolves to, or the
folder of that path if none was typed. -/
def LooksIn (tree : FileTree) (current : String) : Option String → Node → Prop
  | none, folder => tree.lookup current = some folder ∧ folder.isFolder = true
  | some parent, folder => tree.resolve current (some parent) = .ok folder ∧ folder.isFolder = true

theorem searched?_eq_some_iff_looksIn
    (present : ∃ here, tree.lookup current = some here ∧ here.isFolder = true) :
    tree.searched? current parent = some folder ↔ tree.LooksIn current parent folder := by
  cases parent with
  | none =>
    obtain ⟨here, found, isFolder⟩ := present
    have same : tree.folderOrRoot current = here := by simp [folderOrRoot, found, isFolder]
    rw [searched?, same, LooksIn, found]
    exact ⟨fun one => ⟨one, Option.some.inj one ▸ isFolder⟩, And.left⟩
  | some parent =>
    rw [LooksIn, ← resolveFolder_eq_ok_iff, searched?]
    cases tree.resolveFolder current (some parent) <;> simp [Except.toOption]

private theorem looksIn_iff_searches (isHere : tree.FolderAt current here) :
    tree.LooksIn current parent folder ↔ tree.Searches current parent folder := by
  cases parent with
  | none =>
    constructor
    · rintro ⟨found, _⟩
      exact Option.some.inj (isHere.found.symm.trans found) ▸ isHere
    · intro searches
      exact ⟨searches.found, searches.isFolder⟩
  | some parent => exact Iff.rfl

theorem searched?_eq_some_iff (isHere : tree.FolderAt current here) :
    tree.searched? current parent = some folder ↔ tree.Searches current parent folder :=
  (searched?_eq_some_iff_looksIn ⟨here, isHere.found, isHere.isFolder⟩).trans
    (looksIn_iff_searches isHere)

theorem complete_of_asks (asks : Asks line command parent term) :
    tree.complete current line = match tree.searched? current parent with
      | none => .noSuchDirectory (parent.getD "")
      | some folder =>
        match candidates folder term with
        | [] => .noMatches term
        | [only] => .replace (command ++ " " ++ candidate parent only)
        | several => .ambiguous (several.map (candidate parent)) := by
  obtain ⟨⟨argument, rest, words, stripped⟩, single⟩ := asks
  simp only [complete, request?, words, stripped, split_behind single]
  cases parent <;> rfl

theorem offers_of_searched (asks : Asks line command parent term)
    (searched : tree.searched? current parent = some folder) :
    Offers command (tree.complete current line) ((candidates folder term).map (candidate parent)) := by
  rw [complete_of_asks asks, searched]
  dsimp only
  cases candidates folder term with
  | nil => exact .noMatches term
  | cons first rest =>
    cases rest with
    | nil => exact .replace _
    | cons second rest => exact .ambiguous _ (by simp)

theorem completes_of_searches (isHere : tree.FolderAt current here)
    (asks : Asks line command parent term) (searches : tree.Searches current parent folder) :
    tree.Completes current line command parent term folder (candidates folder term) := by
  have consistent := consistent_of_lookup searches.folderAt.found
  have ordered := ordered_of_lookup searches.folderAt.found
  have ascend : (candidates folder term).Pairwise fun first second =>
      Text.Utf8.encode first.name < Text.Utf8.encode second.name :=
    candidates_ascend ordered consistent
  have searched := (searched?_eq_some_iff isHere).mpr searches
  refine ⟨offers_of_searched asks searched, ascend, fun child => mem_candidates_iff consistent, ?_⟩
  refine List.pairwise_map.mpr (ascend.imp_of_mem fun {first second} one two less same => ?_)
  have firstName := (consistent.child ((mem_candidates_iff consistent).mp one).1).1
  have secondName := (consistent.child ((mem_candidates_iff consistent).mp two).1).1
  rw [candidate_injective firstName secondName same] at less
  exact List.lt_irrefl _ less

theorem complete_eq_noSuchDirectory_iff (isHere : tree.FolderAt current here)
    (asks : Asks line command parent term) :
    (∃ missing, tree.complete current line = .noSuchDirectory missing) ↔
      ¬∃ folder, tree.Searches current parent folder := by
  constructor
  · rintro ⟨missing, answered⟩ ⟨folder, searches⟩
    have offers := (completes_of_searches isHere asks searches).offers
    rw [answered] at offers
    cases offers
  · intro nowhere
    refine ⟨parent.getD "", ?_⟩
    rw [complete_of_asks asks]
    cases found : tree.searched? current parent with
    | none => rfl
    | some folder => exact absurd ⟨folder, (searched?_eq_some_iff isHere).mp found⟩ nowhere

/-! ### Candidates as arguments -/

/-- A candidate resolves to the child that it was made from exactly if the names of the
typed parent lead down from the working directory to the folder that was searched. -/
theorem resolve_candidate_iff (isHere : tree.FolderAt current here)
    (searches : tree.Searches current parent folder)
    (member : (child.name, child) ∈ folder.children)
    (relative : IsRelative (candidate parent child)) :
    tree.resolve current (some (candidate parent child)) = .ok child ↔
      here.descend (segments (parent.getD "")) = some folder := by
  have consistent := consistent_of_lookup searches.folderAt.found
  obtain ⟨isName, _, placed, _⟩ := consistent.child member
  rw [isHere.resolve_eq_ok_iff relative, segments_candidate isName, Node.descend_append]
  simp only [Node.descend_single]
  constructor
  · intro reached
    obtain ⟨inner, down, found⟩ := Option.bind_eq_some_iff.mp reached
    obtain ⟨_, _, atInner⟩ := isHere.path_of_descend down
    have sameParent : inner.path = folder.path := by
      have below := (consistent_of_lookup atInner).child (Node.mem_children_of_child? found)
      exact join_left_injective (below.2.2.1.symm.trans placed)
    rw [sameParent, searches.folderAt.found] at atInner
    rw [down, Option.some.inj atInner]
  · intro down
    rw [down]
    exact Node.child?_of_mem (ordered_of_lookup searches.folderAt.found) member

theorem Searches.descend (isHere : tree.FolderAt current here)
    (plain : ∀ before ∈ parent, IsRelative before) (searches : tree.Searches current parent folder) :
    here.descend (segments (parent.getD "")) = some folder := by
  cases parent with
  | none =>
    have same : here = folder := Option.some.inj (isHere.found.symm.trans searches.found)
    simp [same, Node.descend]
  | some before => exact (isHere.resolve_eq_ok_iff (plain before rfl)).mp searches.1

/-- Completion agrees with resolution on plain relative arguments. It finds no folder
exactly if the typed parent resolves to none; otherwise it offers the children whose
names begin with the term, and a candidate without a blank, typed in turn, is one word
that resolves to its child. -/
theorem completion_agrees_with_resolution (isHere : tree.FolderAt current here)
    (asks : Asks line command parent term) (plain : ∀ before ∈ parent, IsRelative before) :
    ((∃ missing, tree.complete current line = .noSuchDirectory missing) ↔
      ¬∃ folder, tree.Searches current parent folder) ∧
    ∀ folder, tree.Searches current parent folder →
      ∃ matched, tree.Completes current line command parent term folder matched ∧
        ∀ child ∈ matched, (∀ character ∈ child.name.toList, Text.isBlank character = false) →
          (parent = none → child.name ≠ ".." ∧ child.name ≠ rootName) →
          Text.words (command ++ " " ++ candidate parent child) =
              [command, candidate parent child] ∧
            tree.resolve current (some (candidate parent child)) = .ok child := by
  refine ⟨complete_eq_noSuchDirectory_iff isHere asks, fun folder searches => ?_⟩
  have completes := completes_of_searches isHere asks searches
  refine ⟨_, completes, fun child matched noBlank bare => ?_⟩
  have member := ((completes.mem_iff child).mp matched).1
  have isName := ((consistent_of_lookup searches.folderAt.found).child member).1
  have relative : IsRelative (candidate parent child) := by
    refine isRelative_candidate isName bare fun aliased => ?_
    exact absurd rfl (plain "" aliased).filled
  refine ⟨asks.words_candidate isName noBlank, ?_⟩
  exact (resolve_candidate_iff isHere searches member relative).mpr (searches.descend isHere plain)

def sampleReport : Node :=
  .fileUnder "/Home/Docs" "report" "Third quarter" false

def sampleDocs : Node :=
  .folderUnder "/Home" "Docs" [.folderUnder "/Home/Docs" "old" [], sampleReport]

def sampleReadme : Node :=
  .fileUnder "/Home" "readme" "Hello" false

/-- A root with a folder and a file beside it; the folder holds a folder and a file. -/
def sampleTree : FileTree where
  root := .rootFolder [sampleDocs, sampleReadme]
  ordered := by
    have old : (Node.folderUnder "/Home/Docs" "old" []).Ordered := Node.ordered_collected (by simp)
    have report : sampleReport.Ordered := trivial
    have docs : sampleDocs.Ordered := Node.ordered_collected (by simp [old, report])
    have readme : sampleReadme.Ordered := trivial
    exact Node.ordered_collected (by simp [docs, readme])
  wellFormed := Node.rootFault?_eq_none_iff.mp (by decide)

theorem completion_agrees_in_sampleTree :
    sampleTree.FolderAt Path.root sampleTree.root ∧ Asks "cat Docs/re" "cat" (some "Docs") "re" ∧
      IsRelative "Docs" ∧ ∃ matched,
        sampleTree.Completes Path.root "cat Docs/re" "cat" (some "Docs") "re" sampleDocs matched ∧
          sampleReport ∈ matched ∧ sampleTree.resolve Path.root (some "Docs/report") = .ok sampleReport := by
  have isHere := sampleTree.folderAt_root
  have asks : Asks "cat Docs/re" "cat" (some "Docs") "re" :=
    ⟨⟨"Docs/re", [], by decide, by decide⟩, by decide⟩
  have plain : IsRelative "Docs" := by constructor <;> decide
  have searches : sampleTree.Searches Path.root (some "Docs") sampleDocs := ⟨rfl, rfl⟩
  have agrees := completion_agrees_with_resolution isHere asks
    fun before typed => Option.some.inj typed ▸ plain
  obtain ⟨matched, completes, resolves⟩ := agrees.2 sampleDocs searches
  have member : sampleReport ∈ matched := (completes.mem_iff sampleReport).mpr (by decide)
  have noBlank : ∀ character ∈ sampleReport.name.toList, Text.isBlank character = false := by
    have all : (sampleReport.name.toList.all fun character => !Text.isBlank character) = true := by
      decide
    intro character inside
    simpa using List.all_eq_true.mp all character inside
  refine ⟨isHere, asks, plain, matched, completes, member, ?_⟩
  exact (resolves sampleReport member noBlank nofun).2

end TreeShell.FileTree
