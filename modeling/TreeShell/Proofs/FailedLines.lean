import TreeShell.Proofs.CompletionResolution
import TreeShell.Proofs.DisplayedRuns
import TreeShell.Proofs.RecalledLines
import TreeShell.Proofs.WorkingDirectory

/-! Lines that fail. A line is recorded and its error is shown, and nothing else comes of it. Where the
working directory is gone from the tree, the commands that look for something there are back in the
root before they fail; that is the tree's doing and not the line's. -/

namespace TreeShell

def FileTree.HasFolder (tree : FileTree) (path : String) : Prop :=
  ∃ folder, tree.lookup path = some folder ∧ folder.isFolder = true

/-- Whether a command looks for what its argument names. -/
def Command.looks : Command → Bool
  | .cat _ | .cd _ => true
  | _ => false

namespace Session
open FileTree

variable {session : Session} {slot : Slot} {tree : FileTree} {command : Command} {cause : ShellError}

theorem directory_of_hasFolder (present : tree.HasFolder session.path) :
    session.directory tree = session.path := by
  obtain ⟨folder, found, isFolder⟩ := present
  simp [directory, found, isFolder]

theorem directory_of_gone (gone : ¬tree.HasFolder session.path) :
    session.directory tree = Path.root := by
  unfold directory
  split
  · rename_i node found
    split
    · rename_i isFolder
      exact absurd ⟨node, found, isFolder⟩ gone
    · rfl
  · rfl

/-- The command looks for something in a directory that is gone from the tree. -/
structure Loses (session : Session) (slot : Slot) (command : Command) : Prop where
  looks : command.looks = true
  gone : ∃ tree, slot = .ready tree ∧ ¬tree.HasFolder session.path

private theorem browse_of_failed {directory : String} (failed : (browse tree directory command).2 = .error cause) :
    (browse tree directory command).1 = directory := by
  have ended : (browse tree directory command).1 = directory ∨ _ := browse_cases directory command
  rcases ended with same | ⟨argument, folder, _, _, moved⟩
  · exact same
  · rw [moved] at failed
    cases failed

theorem dispatch_of_looks (looks : command.looks = true)
    (failed : (session.dispatch (.ready tree) command).2 = some (.error cause)) :
    (session.dispatch (.ready tree) command).1 = session.directory tree := by
  have read : session.dispatch (.ready tree) command =
      (browse tree (session.directory tree) command).map id some := by
    cases command with
    | cat | cd => rfl
    | _ => cases looks
  rw [read] at failed ⊢
  exact browse_of_failed (Option.some.inj failed)

theorem dispatch_of_loses (loses : session.Loses slot command)
    (failed : (session.dispatch slot command).2 = some (.error cause)) :
    (session.dispatch slot command).1 = Path.root := by
  obtain ⟨tree, rfl, gone⟩ := loses.gone
  rw [dispatch_of_looks loses.looks failed, directory_of_gone gone]

theorem dispatch_of_not_loses (stays : ¬session.Loses slot command)
    (failed : (session.dispatch slot command).2 = some (.error cause)) :
    (session.dispatch slot command).1 = session.path := by
  by_cases reads : command.looks = true ∧ ∃ tree, slot = .ready tree
  · obtain ⟨looks, tree, rfl⟩ := reads
    rw [dispatch_of_looks looks failed]
    apply directory_of_hasFolder
    exact Classical.not_not.mp fun gone => stays ⟨looks, tree, rfl, gone⟩
  · cases command with
    | empty | clear | help | exit => cases failed
    | unknown => rfl
    | ls =>
      cases slot with
      | ready => cases failed
      | loading | unavailable => rfl
    | cat | cd =>
      cases slot with
      | ready tree => exact absurd ⟨rfl, tree, rfl⟩ reads
      | loading | unavailable => rfl

theorem submitLine_of_answer {line : String} {body : Body}
    (answered : (session.dispatch slot (Command.ofLine line)).2 = some body) :
    (session.submitLine slot line).2 = [.append ⟨session.path, line, body⟩] := by
  have silent : signals (Command.ofLine line) = [] := by
    cases seen : Command.ofLine line with
    | clear | exit =>
      rw [seen] at answered
      cases answered
    | _ => rfl
  simp [submitLine, answered, silent]

theorem exists_answer_of_mem {line : String} {entry : Transcript}
    (shown : .append entry ∈ (session.submitLine slot line).2) :
    ∃ body, (session.dispatch slot (Command.ofLine line)).2 = some body ∧
      entry = ⟨session.path, line, body⟩ := by
  cases answered : (session.dispatch slot (Command.ofLine line)).2 with
  | some body =>
    rw [submitLine_of_answer answered, List.mem_singleton] at shown
    exact ⟨body, rfl, Signal.append.inj shown⟩
  | none =>
    have unshown : .append entry ∉ signals (Command.ofLine line) := by
      cases Command.ofLine line <;> simp [signals]
    simp [submitLine, answered, unshown] at shown

end Session

/-- A signal shows an error. -/
def Signal.Fails (signal : Signal) : Prop :=
  ∃ entry cause, signal = .append entry ∧ entry.body = .error cause

namespace World
open Session

variable {world : World} {action : Action} {line : String} {entry : Transcript} {cause : ShellError}

/-- What is left of a line that fails: itself behind the other lines, its error behind the other entries,
and a session that stands where it stood, if it stood anywhere. -/
structure Leaves (world : World) (action : Action) (line : String) (cause : ShellError) : Prop where
  slot : (world.act action).slot = world.slot
  hidden : (world.act action).session.hidden = world.session.hidden
  history : (world.act action).session.history =
    ⟨world.session.history.entries ++ [line], world.session.history.entries.length + 1⟩
  input : (world.act action).session.input = ""
  said : world.said action = [.append ⟨world.session.path, line, .error cause⟩]
  shown : ∀ record : Record, (world.said action).foldl Record.take record =
    ⟨record.entries ++ [⟨world.session.path, line, .error cause⟩], record.hidden⟩
  path : ¬world.session.Loses world.slot (Command.ofLine line) →
    (world.act action).session.path = world.session.path
  fallback : world.session.Loses world.slot (Command.ofLine line) →
    (world.act action).session.path = Path.root

theorem leaves_of_failed (submitted : world.submitted? action = some line)
    (answered : .append entry ∈ world.said action) (failed : entry.body = .error cause) :
    world.Leaves action line cause := by
  rw [said_of_submitted submitted] at answered
  obtain ⟨body, dispatched, rfl⟩ := exists_answer_of_mem answered
  subst failed
  have said : world.said action = [.append ⟨world.session.path, line, .error cause⟩] := by
    rw [said_of_submitted submitted, submitLine_of_answer dispatched]
  have shows : Command.ofLine line ≠ .exit := by
    intro hides
    rw [hides] at dispatched
    cases dispatched
  have moved : (world.act action).session.path =
      (world.session.dispatch world.slot (Command.ofLine line)).1 := by
    rw [act_of_submitted submitted]
    rfl
  constructor
  · rw [act_of_submitted submitted]
  · rw [hidden_of_submitted submitted, beq_eq_false_iff_ne.mpr shows, Bool.or_false]
  · exact (history_of_submitted submitted).1
  · exact (history_of_submitted submitted).2
  · exact said
  · intro record
    rw [said]
    rfl
  · intro stays
    rw [moved, dispatch_of_not_loses stays dispatched]
  · intro loses
    rw [moved, dispatch_of_loses loses dispatched]

/-- What is left of lines that fail one after another. -/
structure LeavesAll (world : World) (lines : List String) : Prop where
  slot : (world.run (submissions lines)).slot = world.slot
  hidden : (world.run (submissions lines)).session.hidden = world.session.hidden
  history : (world.run (submissions lines)).session.history.entries =
    world.session.history.entries ++ lines
  told : ∃ entries : List Transcript, world.told (submissions lines) = entries.map .append ∧
    entries.map Transcript.command = lines
  path : (world.run (submissions lines)).session.path = world.session.path ∨
    (world.run (submissions lines)).session.path = Path.root ∧
      ∃ tree, world.slot = .ready tree ∧ ¬tree.HasFolder world.session.path

theorem exists_error_of_fails (submitted : world.submitted? action = some line)
    (fails : ∀ signal ∈ world.said action, signal.Fails) :
    ∃ entry cause, .append entry ∈ world.said action ∧ entry.body = .error cause := by
  have tells := world.tells_said action
  generalize world.said action = signals at tells fails
  cases tells with
  | answered | noticed =>
    obtain ⟨entry, cause, same, failed⟩ := fails _ List.mem_cons_self
    exact ⟨entry, cause, same ▸ List.mem_cons_self, failed⟩
  | cleared | hidden =>
    obtain ⟨_, _, other, _⟩ := fails _ List.mem_cons_self
    cases other
  | silent idle =>
    rw [submitted] at idle
    cases idle

theorem leavesAll_of_fails {lines : List String}
    (fails : ∀ signal ∈ world.told (submissions lines), signal.Fails) : world.LeavesAll lines := by
  induction lines generalizing world with
  | nil => exact ⟨rfl, rfl, (List.append_nil _).symm, ⟨[], rfl, rfl⟩, .inl rfl⟩
  | cons line rest ih =>
    have parted : world.told (submissions (line :: rest)) =
        world.said (.event (.line line)) ++ (world.act (.event (.line line))).told (submissions rest) := rfl
    rw [parted, List.forall_mem_append] at fails
    have submitted : world.submitted? (.event (.line line)) = some line := rfl
    obtain ⟨entry, cause, answered, failed⟩ := exists_error_of_fails submitted fails.1
    have first := leaves_of_failed submitted answered failed
    have later := ih fails.2
    obtain ⟨entries, told, typed⟩ := later.told
    refine ⟨later.slot.trans first.slot, later.hidden.trans first.hidden, ?_, ?_, ?_⟩
    · have recorded := later.history
      rw [first.history, List.append_assoc] at recorded
      exact recorded
    · refine ⟨⟨world.session.path, line, .error cause⟩ :: entries, ?_, ?_⟩
      · rw [parted, told, first.said]
        rfl
      · rw [List.map_cons, typed]
    · have ended := later.path
      rw [first.slot] at ended
      by_cases loses : world.session.Loses world.slot (Command.ofLine line)
      · rw [first.fallback loses] at ended
        exact .inr ⟨ended.elim id And.left, loses.gone⟩
      · rw [first.path loses] at ended
        exact ended

/-- A line that is answered by an error changes nothing but the history, the input and what is shown, and
these by itself and its error alone; only a directory that is gone from the tree gives way to the root.
So after any number of such lines, all that is left of them is the lines and their errors. -/
theorem failed_lines_leave_errors (world : World) :
    (∀ action line entry cause, world.submitted? action = some line →
      .append entry ∈ world.said action → entry.body = .error cause → world.Leaves action line cause) ∧
    ∀ lines, (∀ signal ∈ world.told (submissions lines), signal.Fails) → world.LeavesAll lines :=
  ⟨fun _ _ _ _ => leaves_of_failed, fun _ => leavesAll_of_fails⟩

/-- A session whose directory has gone asks for a file, and for a command that there is not. -/
theorem errors_in_lost_directory :
    let world : World := ⟨.ready FileTree.sampleTree, { Session.start with path := "/Home/gone" }⟩
    let entry : Transcript := ⟨"/Home/gone", "cat nofile", .error (.noSuchFile "nofile")⟩
    world.submitted? (.event (.line "cat nofile")) = some "cat nofile" ∧
      .append entry ∈ world.said (.event (.line "cat nofile")) ∧
      (world.act (.event (.line "cat nofile"))).session.path = Path.root ∧
      (∀ signal ∈ world.told (submissions ["gui", "cat nofile"]), signal.Fails) ∧
      (world.run (submissions ["gui", "cat nofile"])).session.history.entries = ["gui", "cat nofile"] := by
  intro world entry
  have answered : .append entry ∈ world.said (.event (.line "cat nofile")) := by decide
  have loses : world.session.Loses world.slot (Command.ofLine "cat nofile") := by
    refine ⟨by decide, FileTree.sampleTree, rfl, ?_⟩
    rintro ⟨folder, found, _⟩
    have missing : FileTree.sampleTree.lookup "/Home/gone" = none := by decide
    cases missing.symm.trans found
  have fails : ∀ signal ∈ world.told (submissions ["gui", "cat nofile"]), signal.Fails := by
    have told : world.told (submissions ["gui", "cat nofile"]) =
        [.append ⟨"/Home/gone", "gui", .error (.unrecognizedCommand "gui")⟩, .append entry] := by decide
    rw [told]
    simp [Signal.Fails, entry]
  obtain ⟨step, run⟩ := failed_lines_leave_errors world
  have first := step (.event (.line "cat nofile")) "cat nofile" entry _ rfl answered rfl
  exact ⟨rfl, answered, first.fallback loses, fails, (run _ fails).history⟩

end World
end TreeShell
