import TreeShell.Proofs.FailedLines

/-! What a completion request does. It writes into the input or to the display, at most to one of the
two, and to nothing else. Which of them, and what, depends on how many children of one folder begin as
was typed. That folder is looked for from the root where the working directory is gone, but only a
command moves the session there. -/

namespace TreeShell
open Completion

def Node.Matches (folder : Node) (term : String) (child : Node) : Prop :=
  (child.name, child) ∈ folder.children ∧ term.toList <+: child.name.toList

namespace FileTree

variable {tree : FileTree} {directory : String} {parent : Option String} {folder : Node}

theorem hasFolder_root (tree : FileTree) : tree.HasFolder Path.root :=
  ⟨tree.root, tree.folderAt_root.found, tree.folderAt_root.isFolder⟩

theorem LooksIn.exists_lookup (looks : tree.LooksIn directory parent folder) :
    ∃ path, tree.lookup path = some folder := by
  cases parent with
  | none => exact ⟨directory, looks.1⟩
  | some parent => exact lookup_of_resolve looks.1

theorem LooksIn.consistent (looks : tree.LooksIn directory parent folder) : folder.Consistent := by
  obtain ⟨_, found⟩ := looks.exists_lookup
  exact consistent_of_lookup found

end FileTree

namespace Session
open FileTree

/-- A session seeks what completes its input: beside a tree, and from its working directory unless that
is gone from the tree. -/
structure Seeks (session : Session) (slot : Slot) (tree : FileTree) (directory command : String)
    (parent : Option String) (term : String) : Prop where
  ready : slot = .ready tree
  asks : Asks session.input command parent term
  stands : tree.HasFolder session.path ∧ directory = session.path ∨
    ¬tree.HasFolder session.path ∧ directory = Path.root

/-- What becomes of a session that is asked to complete its input, and what it says. -/
inductive Completed (slot : Slot) (session : Session) : Session → List Signal → Prop where
  | idle (few : (Text.words session.input).length < 2) : Completed slot session session []
  | refused {cause} (many : 2 ≤ (Text.words session.input).length)
      (refused : slot.require = .error cause) :
    Completed slot session session [.append ⟨session.path, "", .error cause⟩]
  | nowhere {tree directory command parent term}
      (seeks : session.Seeks slot tree directory command (some parent) term)
      (missing : ∀ folder, ¬tree.LooksIn directory (some parent) folder) :
    Completed slot session session
      [.append ⟨session.path, "", .text ("No such directory: " ++ parent)⟩]
  | unmatched {tree directory command parent term folder}
      (seeks : session.Seeks slot tree directory command parent term)
      (looks : tree.LooksIn directory parent folder) (none : ∀ child, ¬folder.Matches term child) :
    Completed slot session session
      [.append ⟨session.path, "", .text ("No matches found for: " ++ term)⟩]
  | unique {tree directory command parent term folder only}
      (seeks : session.Seeks slot tree directory command parent term)
      (looks : tree.LooksIn directory parent folder)
      (one : ∀ child, folder.Matches term child ↔ child = only) :
    Completed slot session
      { session with input := command ++ " " ++ candidate parent only } []
  | several {tree directory command parent term folder} {matched : List Node}
      (seeks : session.Seeks slot tree directory command parent term)
      (looks : tree.LooksIn directory parent folder)
      (all : ∀ child, folder.Matches term child ↔ child ∈ matched) (many : 2 ≤ matched.length)
      (ascend : matched.Pairwise fun first second =>
        Text.Utf8.encode first.name < Text.Utf8.encode second.name) :
    Completed slot session session
      [.append ⟨session.path, "", .matches (matched.map (candidate parent))⟩]

variable {session : Session} {slot : Slot} {tree : FileTree} {directory command line : String}
  {parent : Option String} {term : String} {cause : ShellError}

theorem ready_of_require (required : slot.require = .ok tree) : slot = .ready tree := by
  cases slot with
  | ready other => rw [Except.ok.inj required]
  | loading | unavailable => cases required

private theorem exists_seeks (many : 2 ≤ (Text.words session.input).length) (ready : slot = .ready tree) :
    ∃ directory command parent term, session.Seeks slot tree directory command parent term := by
  obtain ⟨command, argument, requested⟩ := exists_request many
  obtain ⟨rest, words⟩ := request?_eq_some_iff.mp requested
  obtain ⟨parent, term, asks⟩ := asks_of_words words
  by_cases present : tree.HasFolder session.path
  · exact ⟨session.path, command, parent, term, ready, asks, .inl ⟨present, rfl⟩⟩
  · exact ⟨Path.root, command, parent, term, ready, asks, .inr ⟨present, rfl⟩⟩

theorem preview_ready (session : Session) (tree : FileTree) (line : String) :
    session.preview (.ready tree) line = .ok (tree.complete (session.directory tree) line) := by
  unfold preview
  split
  · rename_i unasked
    simp [complete, unasked]
  · rfl

namespace Seeks

theorem directory_eq (seeks : session.Seeks slot tree directory command parent term) :
    session.directory tree = directory := by
  rcases seeks.stands with ⟨present, same⟩ | ⟨gone, same⟩
  · rw [directory_of_hasFolder present, same]
  · rw [directory_of_gone gone, same]

theorem hasFolder (seeks : session.Seeks slot tree directory command parent term) :
    tree.HasFolder directory := by
  rcases seeks.stands with ⟨present, rfl⟩ | ⟨_, rfl⟩
  · exact present
  · exact hasFolder_root tree

private theorem preview_eq (seeks : session.Seeks slot tree directory command parent term) :
    session.preview slot session.input = .ok (tree.complete directory session.input) := by
  rw [seeks.ready, preview_ready, seeks.directory_eq]

end Seeks

private theorem preview_of_few (few : (Text.words line).length < 2) : session.preview slot line = .ok .noop := by
  rw [preview, request?_eq_none_iff.mpr few]

private theorem preview_of_refused (many : 2 ≤ (Text.words line).length) (refused : slot.require = .error cause) :
    session.preview slot line = .error cause := by
  obtain ⟨command, argument, requested⟩ := exists_request many
  rw [preview, requested, refused]

private theorem preview_ne_noop (many : 2 ≤ (Text.words session.input).length) :
    session.preview slot session.input ≠ .ok .noop := by
  cases required : slot.require with
  | error cause =>
    rw [preview_of_refused many required]
    nofun
  | ok tree =>
    obtain ⟨directory, command, parent, term, seeks⟩ := exists_seeks many (ready_of_require required)
    rw [seeks.preview_eq, complete_of_asks seeks.asks]
    cases tree.searched? directory parent with
    | none => nofun
    | some folder =>
      dsimp only
      split <;> nofun

theorem completeInput_of_replace (previewed : session.preview slot session.input = .ok (.replace line)) :
    session.completeInput slot = ({ session with input := line }, []) := by
  rw [completeInput, previewed]

private theorem completeInput_of_not_replace (many : 2 ≤ (Text.words session.input).length)
    (kept : ∀ line, session.preview slot session.input ≠ .ok (.replace line)) :
    ∃ body, session.completeInput slot = (session, [session.notice body]) := by
  unfold completeInput
  split
  · exact ⟨_, rfl⟩
  · rename_i silent
    exact absurd silent (preview_ne_noop many)
  · rename_i line replaced
    exact absurd replaced (kept line)
  all_goals exact ⟨_, rfl⟩

/-- Of all that a session and its display keep, a completion request changes one thing or none. -/
theorem Completed.confined {after : Session} {said : List Signal}
    (completed : Completed slot session after said) :
    after = { session with input := after.input } ∧ (after.input = session.input ∨ said = []) := by
  cases completed with
  | unique => exact ⟨rfl, .inr rfl⟩
  | _ => exact ⟨rfl, .inl rfl⟩

theorem Seeks.completed (seeks : session.Seeks slot tree directory command parent term) :
    Completed slot session (session.completeInput slot).1 (session.completeInput slot).2 := by
  rw [completeInput, seeks.preview_eq, complete_of_asks seeks.asks]
  cases searched : tree.searched? directory parent with
  | none =>
    have missing (folder : Node) : ¬tree.LooksIn directory parent folder := by
      rw [← searched?_eq_some_iff_looksIn seeks.hasFolder, searched]
      exact (Option.some_ne_none folder).symm
    cases parent with
    | none => cases searched
    | some before => exact .nowhere seeks missing
  | some folder =>
    have looks := (searched?_eq_some_iff_looksIn seeks.hasFolder).mp searched
    have matching (child : Node) : folder.Matches term child ↔ child ∈ candidates folder term :=
      (mem_candidates_iff looks.consistent).symm
    dsimp only
    cases matched : candidates folder term with
    | nil =>
      have none (child : Node) : ¬folder.Matches term child := by
        rw [matching, matched]
        exact List.not_mem_nil
      exact .unmatched seeks looks none
    | cons only rest =>
      cases rest with
      | nil => exact .unique seeks looks fun child => by rw [matching, matched, List.mem_singleton]
      | cons next rest =>
        obtain ⟨_, found⟩ := looks.exists_lookup
        have ascend : (candidates folder term).Pairwise fun first second =>
            Text.Utf8.encode first.name < Text.Utf8.encode second.name :=
          candidates_ascend (ordered_of_lookup found) looks.consistent
        rw [matched] at ascend
        exact .several seeks looks (fun child => by rw [matching, matched]) (by simp) ascend

theorem completed_completeInput (slot : Slot) (session : Session) :
    Completed slot session (session.completeInput slot).1 (session.completeInput slot).2 := by
  rcases Nat.lt_or_ge (Text.words session.input).length 2 with few | many
  · rw [completeInput, preview_of_few few]
    exact .idle few
  · cases required : slot.require with
    | error cause =>
      rw [completeInput, preview_of_refused many required]
      exact .refused many required
    | ok tree =>
      obtain ⟨directory, command, parent, term, seeks⟩ := exists_seeks many (ready_of_require required)
      exact seeks.completed

end Session

namespace Console

/-- A completion request writes into the input or to the display. Without a second word it does nothing.
If one child of the folder that is looked in is matched, the input becomes the line that a preview tells;
else one entry is shown, with no command and the working directory as it stands, gone or not. -/
theorem completion_request_confined (display : Display Shown) (console : Console Shown) :
    let world := console.world
    let after := console.act display (.event .complete)
    let preview := world.session.preview world.slot world.session.input
    (after.world.slot = world.slot ∧ after.world.session.path = world.session.path ∧
      after.world.session.history = world.session.history ∧
      after.world.session.hidden = world.session.hidden) ∧
    (after.world.session.input = world.session.input ∨ after.shown = console.shown) ∧
    ((Text.words world.session.input).length < 2 → after = console) ∧
    (∀ line, preview = .ok (.replace line) →
      after = ⟨{ world with session := { world.session with input := line } }, console.shown⟩) ∧
    (2 ≤ (Text.words world.session.input).length → (∀ line, preview ≠ .ok (.replace line)) →
      ∃ body, after = ⟨world, display.append console.shown ⟨world.session.path, "", body⟩⟩) ∧
    world.session.Completed world.slot after.world.session (world.said (.event .complete)) := by
  intro world after preview
  have completed : world.session.Completed world.slot after.world.session
      (world.said (.event .complete)) := world.session.completed_completeInput world.slot
  obtain ⟨framed, oneOf⟩ := completed.confined
  have completes (session : Session) (said : List Signal)
      (same : world.session.completeInput world.slot = (session, said)) :
      after = ⟨{ world with session }, said.foldl display.take console.shown⟩ := by
    simp only [after, act, World.act, World.said, Session.step, world, same]
  refine ⟨⟨rfl, ?_⟩, ?_, fun few => ?_, fun line previewed => ?_, fun many kept => ?_, completed⟩
  · rw [framed]
    exact ⟨rfl, rfl, rfl⟩
  · refine oneOf.imp_right fun silent => ?_
    have shown : after.shown = (world.said (.event .complete)).foldl display.take console.shown := rfl
    rw [shown, silent]
    rfl
  · rw [completes _ _ (by rw [Session.completeInput, Session.preview_of_few few])]
    rfl
  · rw [completes _ _ (Session.completeInput_of_replace previewed)]
    rfl
  · obtain ⟨body, noticed⟩ := Session.completeInput_of_not_replace many kept
    exact ⟨body, completes _ _ noticed⟩

end Console
end TreeShell
