import TreeShell.Proofs.CompletionAliases
import TreeShell.Proofs.DirectoryChanges

/-! What a session can reach. A line is cut at its blanks, so no argument leads through a name
that holds one. Every other node is one line away from the root: behind two separators no name
is taken for the parent or the root, and separators that touch count as one. -/

namespace TreeShell

namespace Path
open Text

theorem unbroken_root : Unbroken root :=
  unbroken_of_all (by decide)

theorem unbroken_join_iff {parent name : String} :
    Unbroken (join parent name) ↔ Unbroken parent ∧ Unbroken name := by
  have separator_filled : isBlank separator = false := by decide
  simp only [Unbroken, toList_join, List.forall_mem_append, List.forall_mem_cons, separator_filled,
    true_and]

theorem unbroken_below_iff {path : String} {names : List String} :
    Unbroken (below path names) ↔ Unbroken path ∧ ∀ name ∈ names, Unbroken name := by
  induction names generalizing path with
  | nil => simp [below]
  | cons name rest ih =>
    change Unbroken (below (join path name) rest) ↔ _
    rw [ih, unbroken_join_iff, List.forall_mem_cons, and_assoc]

private theorem unbroken_strip {path : String} (unbroken : Unbroken path) : Unbroken (strip path) := by
  intro character member
  exact unbroken character (mem_strip member)

private theorem unbroken_parent {path parent : String} (unbroken : Unbroken path)
    (above : parent? path = some parent) : Unbroken parent := by
  unfold parent? at above
  split at above
  · cases above
  · split at above
    · cases above
    · cases above
    · rename_i before after _ parted
      cases above
      intro character member
      rw [String.toList_ofList] at member
      apply unbroken
      rw [(parted_of_splitLast parted).1]
      exact List.mem_append_left _ member

private theorem unbroken_steps {path : String} (unbroken : Unbroken path) :
    ∀ name ∈ steps path, Unbroken name := by
  intro name member character inside
  have among : name ∈ segments path := by
    unfold steps at member
    split at member
    · cases member
    · rename_i first rest opened
      rw [opened]
      split at member
      · exact List.mem_cons_of_mem _ member
      · exact member
  exact unbroken character ((mem_runs among).2 character inside).1

private theorem isRelative_of_doubled {argument : String} (doubled : ['/', '/'] <+: argument.toList) :
    IsRelative argument := by
  have single : ∀ other ∈ parentAliases ++ rootAliases, ¬['/', '/'] <+: other.toList := by
    decide
  apply isRelative_iff.mpr
  intro aliased
  exact single argument aliased doubled

/-- The argument that leads through these names from the root. -/
def rooted (names : List String) : String :=
  below "/" names

private theorem segments_rooted {names : List String} (all : ∀ name ∈ names, IsName name) :
    segments (rooted names) = names := by
  unfold rooted
  rw [segments_below all]
  rfl

private theorem isRelative_rooted (name : String) (rest : List String) : IsRelative (rooted (name :: rest)) := by
  apply isRelative_of_doubled
  have spelled : rooted (name :: rest) = join "/" name ++ String.join (rest.map ("/" ++ ·)) :=
    below_eq_join (join "/" name) rest
  rw [spelled, String.toList_append, toList_join, List.append_assoc]
  exact ⟨_, rfl⟩

private theorem word_rooted {names : List String} (unbroken : ∀ name ∈ names, Unbroken name) :
    Word (rooted names) := by
  refine ⟨below_ne_empty (by decide) names, ?_⟩
  have start : Unbroken "/" := unbroken_of_all (by decide)
  exact unbroken_below_iff.mpr ⟨start, unbroken⟩

end Path

namespace FileTree
open TreeShell.Path Text

variable {tree : FileTree} {current path : String} {node : Node}

theorem unbroken_of_lookup (found : tree.lookup path = some node) (unbroken : Unbroken path) :
    Unbroken node.path := by
  rw [path_of_lookup found]
  exact unbroken_below_iff.mpr ⟨unbroken_root, unbroken_steps unbroken⟩

/-- From a path without blanks, an argument without blanks leads to another such path. -/
theorem unbroken_of_resolve {argument : Option String} (here : Unbroken current)
    (typed : ∀ text, argument = some text → Unbroken text)
    (resolved : tree.resolve current argument = .ok node) : Unbroken node.path := by
  rcases resolve_cases resolved with rfl | ⟨parent, above, found⟩ | ⟨text, given, found⟩
  · rw [tree.wellFormed.path]
    exact unbroken_root
  · exact unbroken_of_lookup found (unbroken_parent here above)
  · apply unbroken_of_lookup found
    exact unbroken_join_iff.mpr ⟨here, unbroken_strip (typed text given)⟩

theorem resolve_rooted {names : List String} (reached : tree.root.descend names = some node) :
    tree.resolve Path.root (some (rooted names)) = .ok node := by
  cases names with
  | nil =>
    cases Option.some.inj reached
    rfl
  | cons name rest =>
    apply (tree.folderAt_root.resolve_eq_ok_iff (isRelative_rooted name rest)).mpr
    rw [segments_rooted (path_of_descend reached).1]
    exact reached

theorem mem_nodes_of_lookup (found : tree.lookup path = some node) : node ∈ tree.root.nodes :=
  Node.mem_nodes_iff.mpr ⟨_, .of_descend found⟩

theorem exists_word_of_mem_nodes (member : node ∈ tree.root.nodes) (unbroken : Unbroken node.path) :
    ∃ argument, Word argument ∧ tree.resolve Path.root (some argument) = .ok node := by
  obtain ⟨names, chain⟩ := Node.mem_nodes_iff.mp member
  have reached := chain.descend tree.ordered
  obtain ⟨_, placed⟩ := path_of_descend reached
  rw [placed] at unbroken
  exact ⟨rooted names, word_rooted (unbroken_below_iff.mp unbroken).2, resolve_rooted reached⟩

end FileTree

namespace Command
open Text

private theorem mem_words_of_argument {line argument : String}
    (given : ofLine line = .cat (some argument) ∨ ofLine line = .cd (some argument)) :
    argument ∈ words line := by
  unfold ofLine at given
  cases seen : words line with
  | nil => simp [seen, ofWords] at given
  | cons name arguments =>
    have second : arguments.head? = some argument := by
      rw [seen] at given
      simp only [ofWords] at given
      rcases given with given | given
      all_goals
        repeat' split at given
        all_goals simp_all
    cases arguments with
    | nil => cases second
    | cons first rest =>
      cases second
      exact List.mem_cons_of_mem _ List.mem_cons_self

private theorem ofLine_cat {argument : String} (word : Word argument) :
    ofLine ("cat" ++ " " ++ argument) = .cat (some argument) := by
  have named : Word "cat" := ⟨by decide, unbroken_of_all (by decide)⟩
  rw [ofLine, words_pair named word]
  rfl

end Command

namespace Session
open FileTree Text

variable {session : Session} {tree : FileTree} {path line : String} {command : Command}

/-- A path that a session can stand at: that of a folder, without a blank. -/
structure Standing (tree : FileTree) (path : String) : Prop where
  folder : ∃ folder, tree.FolderAt path folder
  unbroken : Unbroken path

theorem standing_root (tree : FileTree) : Standing tree Path.root :=
  ⟨⟨_, tree.folderAt_root⟩, Path.unbroken_root⟩

theorem directory_of_standing (standing : Standing tree session.path) :
    session.directory tree = session.path := by
  obtain ⟨folder, here⟩ := standing.folder
  exact directory_of_folderAt here

theorem standing_browse (standing : Standing tree path)
    (typed : ∀ argument, command = .cd (some argument) → Unbroken argument) :
    Standing tree (browse tree path command).1 := by
  cases command with
  | cd argument =>
    simp only [browse]
    cases resolved : tree.resolveFolder path argument with
    | error cause => exact standing
    | ok folder =>
      refine ⟨⟨folder, folderAt_of_resolveFolder resolved⟩, ?_⟩
      apply unbroken_of_resolve standing.unbroken ?_ (resolveFolder_eq_ok_iff.mp resolved).1
      rintro text rfl
      exact typed text rfl
  | _ => exact standing

theorem unbroken_of_argument {argument : String}
    (given : Command.ofLine line = .cat (some argument) ∨ Command.ofLine line = .cd (some argument)) :
    Unbroken argument :=
  (word_of_mem_words (Command.mem_words_of_argument given)).2

theorem standing_submitLine (standing : Standing tree session.path) (line : String) :
    Standing tree (session.submitLine (.ready tree) line).1.path := by
  by_cases needsTree : (Command.ofLine line).needsTree = true
  · rw [(submitLine_of_ready needsTree).1, directory_of_standing standing]
    apply standing_browse standing
    intro argument given
    exact unbroken_of_argument (.inr given)
  · rw [submitLine_path_of_not_ready fun needed => absurd needed needsTree]
    exact standing

theorem standing_step (standing : Standing tree session.path) (event : Event) :
    Standing tree (session.step (.ready tree) event).1.path := by
  cases submitted : session.submitted? event with
  | none =>
    rw [step_path_of_not_submitted submitted]
    exact standing
  | some line =>
    rw [step_of_submitted submitted]
    exact standing_submitLine standing line

theorem browse_cat_eq_text_iff {argument : Option String} {content : String} :
    (browse tree path (.cat argument)).2 = .text content ↔
      ∃ file, tree.resolveFile path argument = .ok file ∧ file.content? = some content := by
  simp only [browse]
  cases resolved : tree.resolveFile path argument with
  | error cause => simp
  | ok file =>
    have isFile := (resolveFile_eq_ok_iff.mp resolved).2.2
    cases file with
    | folder => cases isFile
    | file name path text executable => simp [Node.content?]

end Session

namespace World
open FileTree Text

variable {world : World} {tree : FileTree} {content : String}

/-- A session whose tree is loaded, before anything happens. -/
def loaded (tree : FileTree) : World :=
  start (.ready tree)

/-- The session after events at the prompt and nothing else. -/
def afterEvents (world : World) (events : List Event) : World :=
  world.run (events.map .event)

/-- Events at the prompt leave the slot as it is, and the session where it can stand. -/
theorem standing_afterEvents (ready : world.slot = .ready tree)
    (standing : Session.Standing tree world.session.path) (events : List Event) :
    (world.afterEvents events).slot = .ready tree ∧
      Session.Standing tree (world.afterEvents events).session.path := by
  induction events generalizing world with
  | nil => exact ⟨ready, standing⟩
  | cons event rest ih =>
    have moved := Session.standing_step standing event
    rw [← ready] at moved
    have unchanged : (world.act (.event event)).slot = .ready tree := ready
    exact ih unchanged moved

/-- An event has a line answered that asks for a file, and the answer is this text. -/
def Prints (world : World) (event : Event) (content : String) : Prop :=
  ∃ line argument, world.session.submitted? event = some line ∧
    Command.ofLine line = .cat argument ∧
    world.said (.event event) = [.append ⟨world.session.path, line, .text content⟩]

theorem prints_iff {event : Event} (ready : world.slot = .ready tree)
    (standing : Session.Standing tree world.session.path) :
    world.Prints event content ↔ ∃ line argument file,
      world.session.submitted? event = some line ∧ Command.ofLine line = .cat argument ∧
      tree.resolveFile world.session.path argument = .ok file ∧ file.content? = some content := by
  have said {line : String} {argument : Option String}
      (submitted : world.session.submitted? event = some line)
      (isCat : Command.ofLine line = .cat argument) : world.said (.event event) =
        [.append ⟨world.session.path, line,
          (Session.browse tree world.session.path (.cat argument)).2⟩] := by
    have needsTree : (Command.ofLine line).needsTree = true := by
      rw [isCat]
      rfl
    simp only [World.said, Session.step_of_submitted submitted, ready]
    rw [(Session.submitLine_of_ready needsTree).2, isCat, Session.directory_of_standing standing]
  constructor
  · rintro ⟨line, argument, submitted, isCat, answered⟩
    rw [said submitted isCat] at answered
    simp only [List.cons.injEq, Signal.append.injEq, Transcript.mk.injEq, true_and, and_true] at answered
    obtain ⟨file, resolved, holds⟩ := Session.browse_cat_eq_text_iff.mp answered
    exact ⟨line, argument, file, submitted, isCat, resolved, holds⟩
  · rintro ⟨line, argument, file, submitted, isCat, resolved, holds⟩
    refine ⟨line, argument, submitted, isCat, ?_⟩
    rw [said submitted isCat, Session.browse_cat_eq_text_iff.mpr ⟨file, resolved, holds⟩]

theorem path_of_cd {argument : String} {folder : Node} (word : Word argument)
    (resolved : tree.resolve Path.root (some argument) = .ok folder)
    (isFolder : folder.isFolder = true) :
    ((loaded tree).afterEvents [.line ("cd" ++ " " ++ argument)]).session.path = folder.path := by
  have moves : Session.start.MovesTo tree ("cd" ++ " " ++ argument) folder.path :=
    (Session.movesTo_cd_iff tree.folderAt_root word).mpr ⟨folder, resolved, isFolder, rfl⟩
  exact moves.path_eq

/-- Events at the prompt take a new session to the folders whose paths hold no blank and to no
others, and print the texts of the files whose paths hold none and no others. -/
theorem reachable_without_blanks (tree : FileTree) :
    (∀ path, (∃ events, ((loaded tree).afterEvents events).session.path = path) ↔
      ∃ folder ∈ tree.root.nodes, folder.isFolder = true ∧ folder.path = path ∧ Unbroken path) ∧
    (∀ content, (∃ events event, ((loaded tree).afterEvents events).Prints event content) ↔
      ∃ file ∈ tree.root.nodes, file.content? = some content ∧ Unbroken file.path) := by
  have opened : (loaded tree).slot = .ready tree := rfl
  have reached := standing_afterEvents opened (Session.standing_root tree)
  refine ⟨fun path => ⟨?_, ?_⟩, fun content => ⟨?_, ?_⟩⟩
  · rintro ⟨events, rfl⟩
    obtain ⟨_, ⟨folder, found, isFolder, placed⟩, unbroken⟩ := reached events
    exact ⟨folder, mem_nodes_of_lookup found, isFolder, placed, unbroken⟩
  · rintro ⟨folder, member, isFolder, rfl, unbroken⟩
    obtain ⟨argument, word, resolved⟩ := exists_word_of_mem_nodes member unbroken
    exact ⟨_, path_of_cd word resolved isFolder⟩
  · rintro ⟨events, event, prints⟩
    obtain ⟨ready, standing⟩ := reached events
    obtain ⟨line, argument, file, _, isCat, answered, holds⟩ := (prints_iff ready standing).mp prints
    obtain ⟨⟨typed, rfl, _⟩, resolved, _⟩ := resolveFile_eq_ok_iff.mp answered
    obtain ⟨_, found⟩ := lookup_of_resolve resolved
    refine ⟨file, mem_nodes_of_lookup found, holds, ?_⟩
    apply unbroken_of_resolve standing.unbroken ?_ resolved
    rintro text same
    cases same
    exact Session.unbroken_of_argument (.inl isCat)
  · rintro ⟨file, member, holds, unbroken⟩
    obtain ⟨argument, word, resolved⟩ := exists_word_of_mem_nodes member unbroken
    obtain ⟨ready, standing⟩ := reached []
    have isFile : file.isFile = true := by
      cases file with
      | folder => cases holds
      | file => rfl
    refine ⟨[], .line ("cat" ++ " " ++ argument), (prints_iff ready standing).mpr ?_⟩
    refine ⟨_, some argument, file, rfl, Command.ofLine_cat word, ?_, holds⟩
    exact resolveFile_eq_ok_iff.mpr ⟨⟨argument, rfl, word.1⟩, resolved, isFile⟩

end World
end TreeShell
