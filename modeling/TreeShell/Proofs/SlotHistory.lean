import Mathlib.Data.List.Induction
import TreeShell.Proofs.SessionRuns

/-! What a slot holds after loads and reloads, any number of them and however they end. A reload
that fails leaves a tree in place and any other failure takes it away. So the slot tells the last
success if no such failure came after it, and the last failure of any kind if one did. -/

namespace TreeShell

namespace Slot

namespace Change

def tree? : Change → Option FileTree
  | .install tree | .load (.ok tree) | .reload (.ok tree) => some tree
  | .fail _ | .load (.error _) | .reload (.error _) => none

def reason? : Change → Option String
  | .install _ | .load (.ok _) | .reload (.ok _) => none
  | .fail reason | .load (.error reason) | .reload (.error reason) => some reason

/-- Whether a change takes a tree away. Of the failures only that of a reload does not. -/
def removes : Change → Bool
  | .install _ | .load (.ok _) | .reload _ => false
  | .fail _ | .load (.error _) => true

theorem tree?_eq_none_iff {change : Change} :
    change.tree? = none ↔ ∃ reason, change.reason? = some reason := by
  cases change with
  | install | fail => simp [tree?, reason?]
  | load outcome | reload outcome => cases outcome <;> simp [tree?, reason?]

end Change

variable {slot : Slot} {changes : List Change} {change : Change} {tree : FileTree} {reason : String}

theorem change_eq_ready_iff : slot.change change = .ready tree ↔
    change.tree? = some tree ∨
      (change.tree? = none ∧ change.removes = false) ∧ slot = .ready tree := by
  cases change with
  | install | fail => simp [Slot.change, Change.tree?, Change.removes]
  | load outcome => cases outcome <;> simp [Slot.change, load, Change.tree?, Change.removes]
  | reload outcome =>
    cases outcome with
    | ok => simp [Slot.change, reload, Change.tree?, Change.removes]
    | error => cases slot <;> simp [Slot.change, reload, Change.tree?, Change.removes]

theorem change_eq_unavailable_iff : slot.change change = .unavailable reason ↔
    change.reason? = some reason ∧ (change.removes = true ∨ ∀ tree, slot ≠ .ready tree) := by
  cases change with
  | install | fail => simp [Slot.change, Change.reason?, Change.removes]
  | load outcome => cases outcome <;> simp [Slot.change, load, Change.reason?, Change.removes]
  | reload outcome =>
    cases outcome with
    | ok => simp [Slot.change, reload, Change.reason?]
    | error => cases slot <;> simp [Slot.change, reload, Change.reason?, Change.removes]

/-- Some change of a kind is the last one, as far as those after it are let pass. -/
def Latest (brings passes : Change → Prop) (changes : List Change) : Prop :=
  ∃ before last later, changes = before ++ last :: later ∧ brings last ∧
    ∀ change ∈ later, passes change

/-- The last success brought this tree, and nothing took it away after that. -/
def Standing (changes : List Change) (tree : FileTree) : Prop :=
  Latest (·.tree? = some tree) (fun change => change.tree? = none ∧ change.removes = false) changes

/-- The last failure had this reason. -/
def LastReason (changes : List Change) (reason : String) : Prop :=
  Latest (·.reason? = some reason) (·.reason? = none) changes

private theorem not_latest_nil {brings passes : Change → Prop} : ¬Latest brings passes [] := by
  rintro ⟨before, last, later, split, _⟩
  cases before <;> cases split

theorem latest_snoc_iff {brings passes : Change → Prop} :
    Latest brings passes (changes ++ [change]) ↔
      brings change ∨ passes change ∧ Latest brings passes changes := by
  constructor
  · rintro ⟨before, last, later, split, brought, passed⟩
    rcases List.eq_nil_or_concat later with rfl | ⟨middle, final, rfl⟩
    · obtain ⟨_, same⟩ := List.append_inj' split rfl
      cases same
      exact .inl brought
    · rw [List.concat_eq_append, ← List.cons_append, ← List.append_assoc] at split
      obtain ⟨rfl, same⟩ := List.append_inj' split rfl
      cases same
      simp only [List.concat_eq_append, List.forall_mem_append, List.forall_mem_singleton] at passed
      exact .inr ⟨passed.2, before, last, middle, rfl, brought, passed.1⟩
  · rintro (brought | ⟨pass, before, last, later, rfl, brought, passed⟩)
    · exact ⟨changes, change, [], rfl, brought, by simp⟩
    · refine ⟨before, last, later ++ [change], by simp, brought, ?_⟩
      simpa [or_imp, forall_and] using And.intro passed pass

theorem standing_snoc_iff : Standing (changes ++ [change]) tree ↔ change.tree? = some tree ∨
    (change.tree? = none ∧ change.removes = false) ∧ Standing changes tree :=
  latest_snoc_iff

private theorem lastReason_snoc_iff : LastReason (changes ++ [change]) reason ↔
    change.reason? = some reason ∨ change.reason? = none ∧ LastReason changes reason :=
  latest_snoc_iff

/-- The slot after changes, one after another. -/
def after (slot : Slot) (changes : List Change) : Slot :=
  changes.foldl Slot.change slot

theorem after_snoc (slot : Slot) (changes : List Change) (change : Change) :
    slot.after (changes ++ [change]) = (slot.after changes).change change :=
  List.foldl_append

theorem after_eq_ready_iff : loading.after changes = .ready tree ↔ Standing changes tree := by
  induction changes using List.reverseRecOn with
  | nil => exact ⟨nofun, fun standing => (not_latest_nil standing).elim⟩
  | append_singleton changes change ih =>
    rw [after_snoc, change_eq_ready_iff, standing_snoc_iff, ih]

theorem after_eq_unavailable_iff : loading.after changes = .unavailable reason ↔
    (∀ tree, ¬Standing changes tree) ∧ LastReason changes reason := by
  rcases List.eq_nil_or_concat changes with rfl | ⟨before, change, rfl⟩
  · exact ⟨nofun, fun failed => (not_latest_nil failed.2).elim⟩
  · rw [List.concat_eq_append, after_snoc, change_eq_unavailable_iff, lastReason_snoc_iff]
    simp only [standing_snoc_iff, ne_eq, after_eq_ready_iff]
    cases success : change.tree? with
    | some tree =>
      have unreasoned : change.reason? = none := by
        refine Option.eq_none_iff_forall_ne_some.mpr fun reason failed => ?_
        rw [Change.tree?_eq_none_iff.mpr ⟨reason, failed⟩] at success
        cases success
      rw [unreasoned]
      constructor
      · rintro ⟨failed, _⟩
        cases failed
      · rintro ⟨empty, _⟩
        exact (empty tree (.inl rfl)).elim
    | none =>
      obtain ⟨found, failed⟩ := Change.tree?_eq_none_iff.mp success
      cases change.removes <;> simp [failed, and_comm]

theorem after_eq_loading_iff : loading.after changes = .loading ↔
    (∀ tree, ¬Standing changes tree) ∧ ∀ reason, ¬LastReason changes reason := by
  constructor
  · intro held
    have empty (tree : FileTree) : ¬Standing changes tree := fun standing => by
      rw [after_eq_ready_iff.mpr standing] at held
      cases held
    refine ⟨empty, fun reason failed => ?_⟩
    rw [after_eq_unavailable_iff.mpr ⟨empty, failed⟩] at held
    cases held
  · rintro ⟨empty, unfailed⟩
    cases held : loading.after changes with
    | loading => rfl
    | ready tree => exact absurd (after_eq_ready_iff.mp held) (empty tree)
    | unavailable reason => exact absurd (after_eq_unavailable_iff.mp held).2 (unfailed reason)

end Slot

/-- What an action does to the slot, if it is a loader's. -/
def Action.change? : Action → Option Slot.Change
  | .event _ => none
  | .change made => some made

namespace World

theorem slot_run (world : World) (actions : List Action) :
    (world.run actions).slot = world.slot.after (actions.filterMap Action.change?) := by
  induction actions using List.reverseRecOn with
  | nil => rfl
  | append_singleton actions action ih =>
    rw [run_snoc, List.filterMap_append]
    cases action with
    | event event =>
      rw [List.filterMap_cons_none rfl, List.filterMap_nil, List.append_nil]
      exact ih
    | change made => simp [act, Action.change?, ih, Slot.after_snoc]

theorem said_of_unavailable {world : World} {reason line : String} {event : Event}
    (unavailable : world.slot = .unavailable reason)
    (submitted : world.session.submitted? event = some line)
    (needsTree : (Command.ofLine line).needsTree = true) :
    world.said (.event event) =
      [.append ⟨world.session.path, line, .error (.fileSystemUnavailable reason)⟩] := by
  simp only [said, Session.step_of_submitted submitted, unavailable]
  cases seen : Command.ofLine line with
  | cat | ls | cd => simp [Session.submitLine, seen, Session.dispatch, Slot.require, Session.signals]
  | _ => simp [seen, Command.needsTree] at needsTree

/-- At every point of every run over a new slot, the slot holds the tree of the last success if
nothing took it away since. If there is no such tree it tells the reason of the last failure of any
kind, and it is empty only while nothing has failed either. As long as it tells a reason, that is
the answer to every command that needs a tree. Loaders change a slot in these ways and no others,
and the reason that they leave is the text of what went wrong. -/
theorem slot_tells_last_success_or_failure (actions : List Action) :
    let world := (start .loading).run actions
    let changes := actions.filterMap Action.change?
    (∀ tree, world.slot = .ready tree ↔ Slot.Standing changes tree) ∧
    (∀ reason, world.slot = .unavailable reason ↔
      (∀ tree, ¬Slot.Standing changes tree) ∧ Slot.LastReason changes reason) ∧
    (world.slot = .loading ↔
      (∀ tree, ¬Slot.Standing changes tree) ∧ ∀ reason, ¬Slot.LastReason changes reason) ∧
    (∀ reason event line, world.slot = .unavailable reason →
      world.session.submitted? event = some line → (Command.ofLine line).needsTree = true →
      world.said (.event event) =
        [.append ⟨world.session.path, line, .error (.fileSystemUnavailable reason)⟩]) ∧
    (∀ objection service disk source, (world.slot.loadFrom objection service disk source).1 =
      (world.act (.change (.load
        ((source.fetch service disk).mapError (Failure.message objection))))).slot) ∧
    (∀ objection disk plan, (world.slot.reloadFrom objection disk plan).1 =
      (world.act (.change (.reload
        ((plan.reload disk).mapError (Failure.message objection))))).slot) := by
  intro world changes
  have held : world.slot = Slot.loading.after changes := slot_run (start .loading) actions
  refine ⟨fun tree => ?_, fun reason => ?_, ?_, fun reason event line => said_of_unavailable,
    Slot.loadFrom_change world.slot, Slot.reloadFrom_change world.slot⟩
  · rw [held, Slot.after_eq_ready_iff]
  · rw [held, Slot.after_eq_unavailable_iff]
  · rw [held, Slot.after_eq_loading_iff]

/-- A reload that fails after a failed load replaces the reason that commands are answered with. -/
theorem answer_after_failed_reload :
    let actions : List Action :=
      [.change (.load (.error "gone")), .event .submit, .change (.reload (.error "torn"))]
    let world := (start .loading).run actions
    world.slot = .unavailable "torn" ∧ world.session.submitted? (.line "ls") = some "ls" ∧
      (Command.ofLine "ls").needsTree = true ∧
      world.said (.event (.line "ls")) =
        [.append ⟨Path.root, "ls", .error (.fileSystemUnavailable "torn")⟩] := by
  intro actions world
  have held : world.slot = .unavailable "torn" := rfl
  have submitted : world.session.submitted? (.line "ls") = some "ls" := rfl
  have needsTree : (Command.ofLine "ls").needsTree = true := by decide
  obtain ⟨_, _, _, answered, _⟩ := slot_tells_last_success_or_failure actions
  exact ⟨held, submitted, needsTree, answered "torn" (.line "ls") "ls" held submitted needsTree⟩

end World
end TreeShell
