import Mathlib.Data.List.Induction
import TreeShell.Proofs.Resolution
import TreeShell.Proofs.SessionRuns

/-! The working directory over whole runs. A session moves only while it reads a tree,
and what it moves to is a folder of that tree, which may be gone from the next one. -/

namespace TreeShell

namespace Session
open FileTree

variable {session : Session} {slot : Slot} {tree : FileTree} {command : Command}

theorem folderAt_directory (canonical : Path.Canonical session.path) :
    ∃ folder, tree.FolderAt (session.directory tree) folder := by
  unfold directory
  split
  · rename_i node found
    split
    · rename_i isFolder
      exact ⟨node, folderAt_of_canonical canonical found isFolder⟩
    · exact ⟨_, folderAt_root tree⟩
  · exact ⟨_, folderAt_root tree⟩

theorem directory_of_folderAt {folder : Node} (here : tree.FolderAt session.path folder) :
    session.directory tree = session.path := by
  simp [directory, here.found, here.isFolder]

theorem directory_cases (session : Session) (tree : FileTree) :
    session.directory tree = session.path ∨ session.directory tree = Path.root := by
  unfold directory
  split
  · split
    · exact .inl rfl
    · exact .inr rfl
  · exact .inr rfl

/-- A command that reads a tree stays in its directory, or it is a change of directory
that succeeds. -/
theorem browse_cases (directory : String) (command : Command) :
    (browse tree directory command).1 = directory ∨
      ∃ argument folder, command = .cd argument ∧ tree.FolderAt folder.path folder ∧
        browse tree directory command = (folder.path, .blank) := by
  cases command with
  | cd argument =>
    simp only [browse]
    cases resolved : tree.resolveFolder directory argument with
    | ok folder => exact .inr ⟨argument, folder, rfl, folderAt_of_resolveFolder resolved, rfl⟩
    | error cause => exact .inl rfl
  | _ => exact .inl rfl

theorem submitLine_of_ready {line : String} (needsTree : (Command.ofLine line).needsTree = true) :
    let browsed := browse tree (session.directory tree) (Command.ofLine line)
    (session.submitLine (.ready tree) line).1.path = browsed.1 ∧
      (session.submitLine (.ready tree) line).2 = [.append ⟨session.path, line, browsed.2⟩] := by
  cases seen : Command.ofLine line with
  | cat | ls | cd => simp [submitLine, seen, dispatch, Slot.require, signals]
  | _ => simp [seen, Command.needsTree] at needsTree

theorem submitLine_path_of_not_ready {line : String}
    (blocked : (Command.ofLine line).needsTree = true → ∀ tree, slot ≠ .ready tree) :
    (session.submitLine slot line).1.path = session.path := by
  cases seen : Command.ofLine line with
  | cat | ls | cd =>
    cases slot with
    | ready tree => exact absurd rfl (blocked (by simp [seen, Command.needsTree]) tree)
    | loading | unavailable => simp [submitLine, seen, dispatch, Slot.require]
  | _ => simp [submitLine, seen, dispatch]

end Session

namespace World

variable {world : World} {action : Action} {line : String} {tree : FileTree}

theorem Reads.act_eq (reads : world.Reads action line tree) :
    let browsed := Session.browse tree (world.session.directory tree) (Command.ofLine line)
    (world.act action).session.path = browsed.1 ∧
      world.said action = [.append ⟨world.session.path, line, browsed.2⟩] := by
  obtain ⟨⟨event, rfl, submitted⟩, needsTree, ready⟩ := reads
  simp only [act, said, Session.step_of_submitted submitted, ready]
  exact Session.submitLine_of_ready needsTree

theorem act_path_of_not_reads (idle : ∀ line tree, ¬world.Reads action line tree) :
    (world.act action).session.path = world.session.path := by
  cases action with
  | change => rfl
  | event event =>
    cases submitted : world.session.submitted? event with
    | none => exact Session.step_path_of_not_submitted submitted
    | some line =>
      simp only [act, Session.step_of_submitted submitted]
      exact Session.submitLine_path_of_not_ready fun needsTree tree ready =>
        idle line tree ⟨⟨event, rfl, submitted⟩, needsTree, ready⟩

/-- An action enters the directory at `path`: it is a change of directory that reads a
tree with a folder at `path`, is answered by a blank and ends there. -/
structure Enters (world : World) (action : Action) (path : String) : Prop where
  reads : ∃ line argument tree folder, world.Reads action line tree ∧
    Command.ofLine line = .cd argument ∧ tree.FolderAt path folder ∧
    world.said action = [.append ⟨world.session.path, line, .blank⟩]
  path_eq : (world.act action).session.path = path

/-- Some action of a run entered the directory at `path`. -/
def Entered (start : World) (actions : List Action) (path : String) : Prop :=
  ∃ before action after, actions = before ++ action :: after ∧
    (start.run before).Enters action path

theorem Entered.snoc {start : World} {actions : List Action} {path : String}
    (entered : start.Entered actions path) (action : Action) :
    start.Entered (actions ++ [action]) path := by
  obtain ⟨before, earlier, after, rfl, enters⟩ := entered
  exact ⟨before, earlier, after ++ [action], by simp, enters⟩

/-- Where a session may stand after a run. -/
def Settled (start : World) (actions : List Action) (path : String) : Prop :=
  path = Path.root ∨ start.Entered actions path

theorem Settled.canonical {start : World} {actions : List Action} {path : String}
    (settled : start.Settled actions path) : Path.Canonical path := by
  rcases settled with rfl | ⟨_, _, _, _, ⟨_, _, _, _, _, _, here, _⟩, _⟩
  · exact Path.canonical_root
  · exact here.canonical

theorem Settled.act {start : World} {actions : List Action}
    (settled : start.Settled actions (start.run actions).session.path) (action : Action) :
    start.Settled (actions ++ [action]) ((start.run actions).act action).session.path := by
  have stays : start.Settled (actions ++ [action]) (start.run actions).session.path :=
    settled.imp_right fun entered => entered.snoc action
  by_cases reading : ∃ line tree, (start.run actions).Reads action line tree
  · obtain ⟨line, tree, reads⟩ := reading
    obtain ⟨moved, answered⟩ := reads.act_eq
    rcases Session.browse_cases ((start.run actions).session.directory tree)
      (Command.ofLine line) with same | ⟨argument, folder, isCd, here, result⟩
    · rw [moved, same]
      rcases Session.directory_cases (start.run actions).session tree with kept | reset
      · exact kept ▸ stays
      · exact .inl reset
    · rw [result] at moved answered
      rw [moved]
      exact .inr ⟨actions, action, [], rfl,
        ⟨line, argument, tree, folder, reads, isCd, here, answered⟩, moved⟩
  · have idle : ∀ line tree, ¬(start.run actions).Reads action line tree :=
      fun line tree reads => reading ⟨line, tree, reads⟩
    rw [act_path_of_not_reads idle]
    exact stays

theorem settled_run (slot : Slot) (actions : List Action) :
    (start slot).Settled actions ((start slot).run actions).session.path := by
  induction actions using List.reverseRecOn with
  | nil => exact .inl rfl
  | append_singleton actions action ih =>
    rw [run_snoc]
    exact ih.act action

theorem Settled.reads {start : World} {actions : List Action}
    (settled : start.Settled actions world.session.path) (reads : world.Reads action line tree) :
    ∃ folder, tree.FolderAt (world.act action).session.path folder ∧
      (Command.ofLine line = .ls → ∃ entries,
        world.said action = [.append ⟨world.session.path, line, .listing entries⟩] ∧
        entries.Perm (folder.children.map fun entry => ⟨entry.2.name, entry.2.kind⟩)) := by
  obtain ⟨moved, answered⟩ := reads.act_eq
  obtain ⟨folder, here⟩ : ∃ folder, tree.FolderAt (world.session.directory tree) folder :=
    Session.folderAt_directory settled.canonical
  rcases Session.browse_cases (world.session.directory tree) (Command.ofLine line) with
    same | ⟨argument, entered, isCd, there, result⟩
  · rw [moved, same]
    refine ⟨folder, here, fun isLs => ⟨tree.listing (world.session.directory tree), ?_, ?_⟩⟩
    · rw [answered, isLs]
      rfl
    · simp only [FileTree.listing, here.found]
      exact List.mergeSort_perm _ _
  · rw [moved, result]
    exact ⟨entered, there, fun isLs => by rw [isCd] at isLs; cases isLs⟩

/-- At every point of every run the session stands in the root or in a directory that
it has entered. A command that reads a tree leaves it in a folder of that tree, of
which a listing names every child and nothing else. Nothing else moves the session. -/
theorem working_directory_of_run (slot : Slot) (actions : List Action) :
    let world := (start slot).run actions
    (world.session.path = Path.root ∨ (start slot).Entered actions world.session.path) ∧
    (∀ action line tree, world.Reads action line tree →
      ∃ folder, tree.FolderAt (world.act action).session.path folder ∧
        (Command.ofLine line = .ls → ∃ entries,
          world.said action = [.append ⟨world.session.path, line, .listing entries⟩] ∧
          entries.Perm (folder.children.map fun entry => ⟨entry.2.name, entry.2.kind⟩))) ∧
    (∀ action, (∀ line tree, ¬world.Reads action line tree) →
      (world.act action).session.path = world.session.path) :=
  ⟨settled_run slot actions, fun _ _ _ reads => (settled_run slot actions).reads reads,
    fun _ idle => act_path_of_not_reads idle⟩

end World
end TreeShell
