import TreeShell.Proofs.CompletionRequests

/-! Completing a line twice. What is put in for a typed argument goes on from it, and asking again
about the longer line finds the same folder and the same child. A name with blanks inside is cut at
the first of them when the line is read again; the part before it still tells the name apart. -/

namespace TreeShell

namespace Text

/-- The part of a text before its first blank. -/
def opening (text : String) : String :=
  String.ofList (text.toList.takeWhile fun character => !isBlank character)

def Indented (text : String) : Prop :=
  ∃ first rest, text.toList = first :: rest ∧ isBlank first = true

private theorem unbroken_opening (text : String) : Unbroken (opening text) := by
  intro character member
  rw [opening, String.toList_ofList] at member
  simpa using List.all_eq_true.mp List.all_takeWhile character member

private theorem opening_cases (text : String) :
    (Unbroken text ∧ opening text = text) ∨
      ∃ gap rest, isBlank gap = true ∧ text.toList = (opening text).toList ++ gap :: rest := by
  have whole := List.takeWhile_append_dropWhile
    (p := fun character => !isBlank character) (l := text.toList)
  cases left : text.toList.dropWhile fun character => !isBlank character with
  | nil =>
    rw [left, List.append_nil] at whole
    have same : opening text = text := by rw [opening, whole, String.ofList_toList]
    exact .inl ⟨same ▸ unbroken_opening text, same⟩
  | cons gap rest =>
    have stopped := List.head?_dropWhile_not (fun character => !isBlank character) text.toList
    rw [left] at stopped whole
    refine .inr ⟨gap, rest, by simpa using stopped, ?_⟩
    rw [opening, String.toList_ofList, whole]

private theorem word_opening {text : String} (filled : text ≠ "") (flush : ¬Indented text) :
    Word (opening text) := by
  refine ⟨fun empty => ?_, unbroken_opening text⟩
  rcases opening_cases text with ⟨_, same⟩ | ⟨gap, rest, isGap, parted⟩
  · exact filled (same ▸ empty)
  · rw [empty] at parted
    exact flush ⟨gap, rest, parted, isGap⟩

private theorem opening_prefix (text : String) : (opening text).toList <+: text.toList := by
  rw [opening, String.toList_ofList]
  exact List.takeWhile_prefix _

private theorem prefix_opening {begun text : String} (unbroken : Unbroken begun)
    (begins : begun.toList <+: text.toList) : begun.toList <+: (opening text).toList := by
  obtain ⟨rest, whole⟩ := begins
  have kept : ∀ character ∈ begun.toList, (!isBlank character) = true := by
    intro character member
    simpa using unbroken character member
  rw [opening, String.toList_ofList, ← whole, List.takeWhile_append_of_pos kept]
  exact List.prefix_append _ _

end Text

namespace Completion
open TreeShell.Path

variable {line command term : String} {parent : Option String} {folder child only : Node}

private theorem behind_eq_behind {before : Option String} {first second : String}
    (one : separator ∉ first.toList) (two : separator ∉ second.toList)
    (same : behind parent first = behind before second) : parent = before ∧ first = second := by
  have parts := congrArg split same
  rw [split_behind one, split_behind two] at parts
  exact Prod.mk.inj parts

/-- Reading the longer line again asks for the same parent, and for the child's name up to its
first blank. -/
theorem Asks.again (asks : Asks line command parent term) (isName : IsName child.name)
    (flush : ¬Text.Indented child.name) :
    Asks (command ++ " " ++ candidate parent child) command parent (Text.opening child.name) := by
  obtain ⟨commanded, typed, _⟩ := asks.unbroken
  have word := Text.word_opening isName.filled flush
  have begins := Text.opening_prefix child.name
  have opened : IsName (Text.opening child.name) :=
    ⟨word.1, fun divided => isName.single (begins.subset divided)⟩
  refine ⟨?_, opened.single⟩
  rcases Text.opening_cases child.name with ⟨unbroken, same⟩ | ⟨gap, rest, isGap, parted⟩
  · refine ⟨candidate parent child, [], asks.words_candidate isName unbroken, ?_⟩
    rw [same, strip_candidate isName]
  · obtain ⟨closing, _, shown⟩ := exists_display child
    have whole : child.name = Text.opening child.name ++ String.ofList (gap :: rest) :=
      String.toList_inj.mp (by simpa using parted)
    have written : candidate parent child =
        behind parent (Text.opening child.name) ++ (String.ofList (gap :: rest) ++ closing) := by
      rw [candidate_eq, shown, ← behind_append, ← String.append_assoc, ← whole]
    have cut : Text.words (command ++ " " ++ candidate parent child) =
        Text.words (command ++ " " ++ behind parent (Text.opening child.name)) ++
          Text.words (String.ofList rest ++ closing) := by
      refine Text.runs_of_gap isGap ?_
      rw [written]
      simp
    rw [Text.words_pair commanded (word_behind typed word)] at cut
    exact ⟨_, _, cut, strip_behind opened⟩

theorem candidates_of_longer {longer : String} (unique : candidates folder term = [only])
    (goesOn : term.toList <+: longer.toList) (inside : longer.toList <+: only.name.toList) :
    candidates folder longer = [only] := by
  have narrowed : candidates folder longer =
      (candidates folder term).filter fun child => longer.toList.isPrefixOf child.name.toList := by
    rw [candidates, candidates, List.filter_filter]
    refine List.filter_congr fun child _ => ?_
    rw [Bool.eq_iff_iff, Bool.and_eq_true]
    simp only [List.isPrefixOf_iff_prefix]
    exact ⟨fun more => ⟨more, goesOn.trans more⟩, And.left⟩
  rw [narrowed, unique]
  simpa using inside

end Completion

namespace FileTree
open TreeShell.Path Completion

variable {tree : FileTree} {current line command argument replaced : String} {parent : Option String}
  {term : String} {folder child only : Node}

/-- An argument matches a child of the folder that is looked in for its parent, if the child's name
begins with what stands after the last separator. One closing separator does not count. -/
def Matches (tree : FileTree) (current argument : String) (child : Node) : Prop :=
  ∃ parent term folder, strip argument = behind parent term ∧ separator ∉ term.toList ∧
    tree.LooksIn current parent folder ∧ folder.Matches term child

theorem LooksIn.unique {other : Node} (present : tree.HasFolder current)
    (one : tree.LooksIn current parent folder) (two : tree.LooksIn current parent other) :
    folder = other := by
  rw [← searched?_eq_some_iff_looksIn present] at one two
  exact Option.some.inj (one.symm.trans two)

theorem matches_iff (present : tree.HasFolder current)
    (stripped : strip argument = behind parent term) (single : separator ∉ term.toList)
    (looks : tree.LooksIn current parent folder) :
    tree.Matches current argument child ↔ child ∈ candidates folder term := by
  rw [mem_candidates_iff looks.consistent]
  constructor
  · rintro ⟨before, last, found, parted, undivided, finds, matched⟩
    obtain ⟨rfl, rfl⟩ := behind_eq_behind undivided single (parted.symm.trans stripped)
    obtain rfl := finds.unique present looks
    exact matched
  · intro matched
    exact ⟨parent, term, folder, stripped, single, looks, matched⟩

private theorem prefix_candidate (stripped : strip argument = behind parent term)
    (member : child ∈ candidates folder term) :
    (strip argument).toList <+: (candidate parent child).toList := by
  obtain ⟨closing, _, shown⟩ := exists_display child
  obtain ⟨more, whole⟩ : term.toList <+: child.name.toList :=
    List.isPrefixOf_iff_prefix.mp (List.mem_filter.mp member).2
  have named : child.name = term ++ String.ofList more := String.toList_inj.mp (by simpa using whole.symm)
  rw [candidate_eq, shown, named, stripped, String.append_assoc, behind_append, String.toList_append]
  exact List.prefix_append _ _

/-- Where completion offers anything, it was asked to and found a folder to look in. -/
theorem exists_offers (present : tree.HasFolder current) (asked : tree.complete current line ≠ .noop)
    (found : ∀ missing, tree.complete current line ≠ .noSuchDirectory missing) :
    ∃ command parent term folder, Asks line command parent term ∧
      tree.LooksIn current parent folder ∧
      Offers command (tree.complete current line) ((candidates folder term).map (candidate parent)) := by
  obtain ⟨command, argument, rest, words⟩ : ∃ command argument rest,
      Text.words line = command :: argument :: rest := by
    cases requested : request? line with
    | none => exact absurd (by simp [complete, requested]) asked
    | some request => exact ⟨request.1, request.2, request?_eq_some_iff.mp requested⟩
  obtain ⟨parent, term, asks⟩ := asks_of_words words
  cases searched : tree.searched? current parent with
  | none => exact absurd (by rw [complete_of_asks asks, searched]) (found (parent.getD ""))
  | some folder =>
    exact ⟨command, parent, term, folder, asks, (searched?_eq_some_iff_looksIn present).mp searched,
      offers_of_searched asks searched⟩

private theorem exists_only_of_replace (present : tree.HasFolder current)
    (answered : tree.complete current line = .replace replaced) :
    ∃ command parent term folder only, Asks line command parent term ∧
      tree.LooksIn current parent folder ∧ candidates folder term = [only] ∧
      replaced = command ++ " " ++ candidate parent only := by
  obtain ⟨command, parent, term, folder, asks, looks, offers⟩ :=
    exists_offers present (by rw [answered]; nofun) (by rw [answered]; nofun)
  rw [answered] at offers
  generalize listed : (candidates folder term).map (candidate parent) = texts at offers
  cases offers with
  | replace extended =>
    obtain ⟨only, unique, rfl⟩ := List.map_eq_singleton_iff.mp listed
    exact ⟨command, parent, term, folder, only, asks, looks, unique, rfl⟩

private theorem exists_candidates_of_ambiguous {offered : List String} (present : tree.HasFolder current)
    (answered : tree.complete current line = .ambiguous offered) :
    ∃ command parent term folder, Asks line command parent term ∧
      offered = (candidates folder term).map (candidate parent) := by
  obtain ⟨command, parent, term, folder, asks, _, offers⟩ :=
    exists_offers present (by rw [answered]; nofun) (by rw [answered]; nofun)
  rw [answered] at offers
  generalize listed : (candidates folder term).map (candidate parent) = texts at offers
  cases offers with
  | ambiguous => exact ⟨command, parent, term, folder, asks, listed.symm⟩

theorem complete_again (present : tree.HasFolder current) (asks : Asks line command parent term)
    (looks : tree.LooksIn current parent folder) (unique : candidates folder term = [only])
    (flush : ¬Text.Indented only.name) :
    let longer := command ++ " " ++ candidate parent only
    tree.complete current longer = .replace longer := by
  intro longer
  have member : only ∈ candidates folder term := unique ▸ List.mem_singleton_self only
  obtain ⟨inside, begins⟩ := (mem_candidates_iff looks.consistent).mp member
  have again := asks.again (looks.consistent.child inside).1 flush
  have goesOn := Text.prefix_opening asks.unbroken.2.2 begins
  have still := candidates_of_longer unique goesOn (Text.opening_prefix only.name)
  rw [complete_of_asks again, (searched?_eq_some_iff_looksIn present).mpr looks]
  simp only [still]
  rfl

end FileTree

namespace World

variable {world : World} {tree : FileTree} {action : Action} {replaced : String}

theorem run_replicate_of_fixed (fixed : world.act action = world) (times : Nat) :
    world.run (List.replicate times action) = world := by
  induction times with
  | zero => rfl
  | succ times ih => rw [List.replicate_succ, run_cons, fixed, ih]

theorem told_replicate_of_fixed (fixed : world.act action = world) (silent : world.said action = [])
    (times : Nat) : world.told (List.replicate times action) = [] := by
  induction times with
  | zero => rfl
  | succ times ih => rw [List.replicate_succ, told, silent, fixed, ih, List.append_nil]

theorem act_complete (ready : world.slot = .ready tree)
    (answered : tree.complete (world.session.directory tree) world.session.input = .replace replaced) :
    world.act (.event .complete) = world.act (.event (.type replaced)) ∧
      world.said (.event .complete) = [] := by
  have previewed : world.session.preview world.slot world.session.input = .ok (.replace replaced) := by
    rw [ready, Session.preview_ready, answered]
  simp only [act, said, Session.step, Session.completeInput_of_replace previewed, and_self]

/-- Where the longer line is completed by itself, requests after the first are idle. -/
theorem run_complete (ready : world.slot = .ready tree)
    (answered : tree.complete (world.session.directory tree) world.session.input = .replace replaced)
    (again : tree.complete (world.session.directory tree) replaced = .replace replaced) (more : Nat) :
    let requests := List.replicate (more + 1) (.event .complete)
    world.run requests = world.act (.event (.type replaced)) ∧ world.told requests = [] := by
  intro requests
  obtain ⟨first, silent⟩ := act_complete ready answered
  let typed := world.act (.event (.type replaced))
  have repeated : typed.act (.event .complete) = typed ∧ typed.said (.event .complete) = [] :=
    act_complete ready again
  simp only [requests, List.replicate_succ, run_cons, told, first, silent, List.nil_append]
  exact ⟨run_replicate_of_fixed repeated.1 more, told_replicate_of_fixed repeated.1 repeated.2 more⟩

end World

namespace FileTree
open TreeShell.Path Completion

variable {tree : FileTree} {current line : String}

/-- Completing a line by its one match goes on from the typed argument, less one closing separator, and
so does each of several candidates. Unless the matched name begins with a blank, completing the longer
line gives it again, so that any further requests change nothing and say nothing. -/
theorem unique_completion_settles (present : tree.HasFolder current) :
    (∀ replaced, tree.complete current line = .replace replaced →
      ∃ command argument rest extended only,
        Text.words line = command :: argument :: rest ∧ replaced = command ++ " " ++ extended ∧
        (strip argument).toList <+: extended.toList ∧
        (∀ child, tree.Matches current argument child ↔ child = only) ∧
        (¬Text.Indented only.name →
          tree.complete current replaced = .replace replaced ∧
          ∀ world : World, world.slot = .ready tree → world.session.directory tree = current →
            world.session.input = line → ∀ more,
              let requests := List.replicate (more + 1) (.event .complete)
              world.run requests = world.act (.event (.type replaced)) ∧
                world.told requests = [])) ∧
    ∀ offered, tree.complete current line = .ambiguous offered →
      ∃ command argument rest, Text.words line = command :: argument :: rest ∧
        ∀ candidate ∈ offered, (strip argument).toList <+: candidate.toList := by
  refine ⟨fun replaced answered => ?_, fun offered answered => ?_⟩
  · obtain ⟨command, parent, term, folder, only, asks, looks, unique, rfl⟩ :=
      exists_only_of_replace present answered
    obtain ⟨argument, rest, words, stripped⟩ := asks.words
    have member : only ∈ candidates folder term := unique ▸ List.mem_singleton_self only
    refine ⟨command, argument, rest, _, only, words, rfl, prefix_candidate stripped member, ?_, ?_⟩
    · intro child
      rw [matches_iff present stripped asks.single looks, unique, List.mem_singleton]
    · intro flush
      have again := complete_again present asks looks unique flush
      refine ⟨again, fun world ready stands typed more => ?_⟩
      subst stands typed
      exact World.run_complete ready answered again more
  · obtain ⟨command, parent, term, folder, asks, rfl⟩ := exists_candidates_of_ambiguous present answered
    obtain ⟨argument, rest, words, stripped⟩ := asks.words
    refine ⟨command, argument, rest, words, fun text offered => ?_⟩
    obtain ⟨child, member, rfl⟩ := List.mem_map.mp offered
    exact prefix_candidate stripped member

def fieldNotes : Node :=
  .folderUnder "/Home" "field notes" []

def spacedTree : FileTree where
  root := .rootFolder [fieldNotes, sampleReadme]
  ordered := by
    have notes : fieldNotes.Ordered := Node.ordered_collected (by simp)
    have readme : sampleReadme.Ordered := trivial
    exact Node.ordered_collected (by simp [notes, readme])
  wellFormed := Node.rootFault?_eq_none_iff.mp (by decide)

/-- The longer line is read as three words, and the second of them is only the begin of a name. -/
theorem completion_settles_in_spacedTree :
    let world : World := ⟨.ready spacedTree, { Session.start with input := "cd fi now" }⟩
    let requests := List.replicate 3 (.event .complete)
    spacedTree.HasFolder Path.root ∧ ¬Text.Indented fieldNotes.name ∧
      spacedTree.complete Path.root "cd fi now" = .replace "cd field notes/" ∧
      spacedTree.complete Path.root "cd field notes/" = .replace "cd field notes/" ∧
      world.run requests = world.act (.event (.type "cd field notes/")) ∧ world.told requests = [] := by
  intro world requests
  have present := spacedTree.hasFolder_root
  have answered : spacedTree.complete Path.root "cd fi now" = .replace "cd field notes/" := by decide
  have flush : ¬Text.Indented fieldNotes.name := by
    rintro ⟨first, rest, opened, blank⟩
    cases opened
    cases blank
  obtain ⟨command, argument, rest, extended, only, words, _, _, matched, settles⟩ :=
    (unique_completion_settles present).1 _ answered
  have read : Text.words "cd fi now" = ["cd", "fi", "now"] := by decide
  obtain ⟨_, rfl, _⟩ : "cd" = command ∧ "fi" = argument ∧ ["now"] = rest := by
    simpa using read.symm.trans words
  have same : fieldNotes = only :=
    (matched fieldNotes).mp ⟨none, "fi", spacedTree.root, by decide, by decide,
      ⟨spacedTree.folderAt_root.found, rfl⟩, by decide, by decide⟩
  have stands : world.session.directory spacedTree = Path.root := Session.directory_of_hasFolder present
  obtain ⟨again, runs⟩ := settles (same ▸ flush)
  exact ⟨present, flush, answered, again, runs world rfl stands rfl 2⟩

end FileTree
end TreeShell
