import TreeShell.Proofs.SessionRuns

/-! The lines of a session and the cursor that recalls them. A submission puts the cursor behind the
newest line and empties the input; a recall moves the cursor by one place, as far as there are
places, and puts the line there into the input. Nothing else touches either of the two. -/

namespace TreeShell

namespace History

variable {history : History}

/-- The cursor stands at a line or right behind the newest one. -/
def InRange (history : History) : Prop :=
  history.cursor ≤ history.entries.length

theorem inRange_record (history : History) (line : String) : (history.record line).InRange := by
  unfold InRange record
  simp

/-- What recalls do. One that reads a line reads it at a place where there is one. -/
structure Recalls (history : History) : Prop where
  oldest : history.cursor = 0 → history.previous = (history, .unchanged)
  back : 0 < history.cursor → ∃ inside : history.cursor - 1 < history.entries.length,
    history.previous =
      (⟨history.entries, history.cursor - 1⟩, .replace history.entries[history.cursor - 1])
  forward : ∀ inside : history.cursor + 1 < history.entries.length,
    history.next =
      (⟨history.entries, history.cursor + 1⟩, .replace history.entries[history.cursor + 1])
  newest : history.entries.length ≤ history.cursor + 1 →
    history.next = (⟨history.entries, history.entries.length⟩, .clear)

theorem InRange.recalls (inRange : history.InRange) : history.Recalls := by
  unfold InRange at inRange
  obtain ⟨entries, cursor⟩ := history
  constructor
  · intro start
    cases start
    rfl
  · intro above
    obtain ⟨place, rfl⟩ := Nat.exists_eq_add_of_lt above
    simp only [Nat.zero_add, Nat.add_sub_cancel] at inRange ⊢
    have inside : place < entries.length := by omega
    exact ⟨inside, by simp [previous, inside]⟩
  · intro inside
    simp only at inside
    simp [next, inside]
  · intro beyond
    simp only at beyond
    simp [next, beyond]

end History

/-- Where an action that submits nothing puts the cursor of a history of `count` lines. -/
def Action.moveCursor (count cursor : Nat) : Action → Nat
  | .event .recallPrevious => cursor - 1
  | .event .recallNext => min (cursor + 1) count
  | _ => cursor

namespace Session

variable {session : Session} {slot : Slot}

/-- The input is the line at the cursor, and it is empty where the cursor stands at none. -/
def ShowsCursor (session : Session) : Prop :=
  session.input =
    if inside : session.history.cursor < session.history.entries.length then
      session.history.entries[session.history.cursor]
    else ""

theorem completeInput_history : (session.completeInput slot).1.history = session.history := by
  unfold completeInput
  split <;> rfl

theorem previous_of_oldest (oldest : session.history.cursor = 0) :
    session.withRecall session.history.previous = session := by
  obtain ⟨path, ⟨entries, cursor⟩, input, hidden⟩ := session
  cases oldest
  rfl

theorem history_previous (inRange : session.history.InRange) :
    (session.withRecall session.history.previous).history =
      ⟨session.history.entries, session.history.cursor - 1⟩ := by
  by_cases oldest : session.history.cursor = 0
  · rw [previous_of_oldest oldest, oldest, Nat.zero_sub, ← oldest]
  · obtain ⟨_, moved⟩ := inRange.recalls.back (by omega)
    simp only [moved, withRecall]

private theorem showsCursor_previous (inRange : session.history.InRange)
    (above : 0 < session.history.cursor) :
    (session.withRecall session.history.previous).ShowsCursor := by
  obtain ⟨inside, moved⟩ := inRange.recalls.back above
  simp [ShowsCursor, moved, withRecall, inside]

theorem history_next (inRange : session.history.InRange) :
    (session.withRecall session.history.next).history =
      ⟨session.history.entries, min (session.history.cursor + 1) session.history.entries.length⟩ := by
  by_cases inside : session.history.cursor + 1 < session.history.entries.length
  · simp only [inRange.recalls.forward inside, withRecall]
    rw [Nat.min_eq_left (by omega)]
  · simp only [inRange.recalls.newest (by omega), withRecall]
    rw [Nat.min_eq_right (by omega)]

private theorem showsCursor_next (inRange : session.history.InRange) :
    (session.withRecall session.history.next).ShowsCursor := by
  by_cases inside : session.history.cursor + 1 < session.history.entries.length
  · simp [ShowsCursor, inRange.recalls.forward inside, withRecall, inside]
  · simp [ShowsCursor, inRange.recalls.newest (by omega), withRecall]

end Session

namespace World

variable {world : World} {action : Action} {line : String}

theorem submitted?_eq_none_iff : world.submitted? action = none ↔ action.submits = false := by
  cases action with
  | change => simp [submitted?, Action.submits]
  | event event => cases event <;> simp [submitted?, Session.submitted?, Action.submits]

theorem history_of_submitted (submitted : world.submitted? action = some line) :
    (world.act action).session.history = world.session.history.record line ∧
      (world.act action).session.input = "" := by
  rw [act_of_submitted submitted]
  exact ⟨rfl, rfl⟩

/-- Every other action leaves the lines as they are; of these only recalls move the cursor. -/
theorem act_history_of_idle (inRange : world.session.history.InRange) (idle : action.submits = false) :
    (world.act action).session.history = ⟨world.session.history.entries,
      action.moveCursor world.session.history.entries.length world.session.history.cursor⟩ := by
  cases action with
  | change => rfl
  | event event =>
    cases event with
    | line | submit => cases idle
    | type => rfl
    | complete => exact Session.completeInput_history
    | recallPrevious => exact Session.history_previous inRange
    | recallNext => exact Session.history_next inRange

private theorem moveCursor_le {count cursor : Nat} (bounded : cursor ≤ count) :
    action.moveCursor count cursor ≤ count := by
  unfold Action.moveCursor
  split <;> omega

theorem inRange_act (inRange : world.session.history.InRange) (action : Action) :
    (world.act action).session.history.InRange := by
  cases submitted : world.submitted? action with
  | some line =>
    rw [(history_of_submitted submitted).1]
    exact History.inRange_record _ line
  | none =>
    rw [act_history_of_idle inRange (submitted?_eq_none_iff.mp submitted)]
    exact moveCursor_le inRange

theorem inRange_run (inRange : world.session.history.InRange) (actions : List Action) :
    (world.run actions).session.history.InRange := by
  induction actions generalizing world with
  | nil => exact inRange
  | cons action rest ih => exact ih (inRange_act inRange action)

theorem entries_act (inRange : world.session.history.InRange) (action : Action) :
    (world.act action).session.history.entries =
      world.session.history.entries ++ (world.submitted? action).toList := by
  cases submitted : world.submitted? action with
  | some line =>
    rw [(history_of_submitted submitted).1]
    rfl
  | none =>
    rw [act_history_of_idle inRange (submitted?_eq_none_iff.mp submitted)]
    simp

theorem entries_run (inRange : world.session.history.InRange) (actions : List Action) :
    (world.run actions).session.history.entries =
      world.session.history.entries ++ world.submittedLines actions := by
  induction actions generalizing world with
  | nil => simp [run, submittedLines]
  | cons action rest ih =>
    rw [run_cons, ih (inRange_act inRange action), entries_act inRange action, submittedLines,
      List.append_assoc]

theorem history_run_of_idle (inRange : world.session.history.InRange) {since : List Action}
    (idle : ∀ action ∈ since, action.submits = false) :
    (world.run since).session.history = ⟨world.session.history.entries,
      since.foldl (Action.moveCursor world.session.history.entries.length)
        world.session.history.cursor⟩ := by
  induction since generalizing world with
  | nil => rfl
  | cons action rest ih =>
    have moved := act_history_of_idle inRange (idle action List.mem_cons_self)
    rw [run_cons, ih (inRange_act inRange action)
      (fun later member => idle later (List.mem_cons_of_mem _ member)), moved]
    rfl

/-- At every point of every run the history holds the lines submitted so far and nothing else. The
cursor is in range. A submission puts it behind the newest line and empties the input, and from there
it goes where the recalls since then take it. After a recall that moves, the input shows the line at
the cursor; a recall of the line before the oldest one changes nothing. -/
theorem recalled_lines_of_run (slot : Slot) (actions : List Action) :
    let world := (start slot).run actions
    let history := world.session.history
    history.entries = (start slot).submittedLines actions ∧
    history.cursor ≤ history.entries.length ∧
    history.Recalls ∧
    (∀ action line, world.submitted? action = some line →
      let answered := world.act action
      let count := history.entries.length + 1
      answered.session.input = "" ∧
      answered.session.history = ⟨history.entries ++ [line], count⟩ ∧
      ∀ since : List Action, (∀ later ∈ since, later.submits = false) →
        (answered.run since).session.history =
          ⟨history.entries ++ [line], since.foldl (Action.moveCursor count) count⟩) ∧
    (world.act (.event .recallNext)).session.ShowsCursor ∧
    (0 < history.cursor → (world.act (.event .recallPrevious)).session.ShowsCursor) ∧
    (history.cursor = 0 → world.act (.event .recallPrevious) = world) := by
  intro world history
  have opened : (start slot).session.history.InRange := Nat.le_refl 0
  have inRange : history.InRange := inRange_run opened actions
  have lines : history.entries = (start slot).submittedLines actions := by
    have added := entries_run opened actions
    exact added
  refine ⟨lines, inRange, inRange.recalls, ?_, Session.showsCursor_next inRange,
    Session.showsCursor_previous inRange, ?_⟩
  · intro action line submitted
    obtain ⟨recorded, emptied⟩ := history_of_submitted submitted
    refine ⟨emptied, recorded, ?_⟩
    intro since idle
    have later := history_run_of_idle (inRange_act inRange action) idle
    rw [recorded] at later
    simpa [History.record] using later
  · intro oldest
    simp only [act, Session.step, Session.previous_of_oldest oldest]

/-- A recalled line is submitted again. Of the recalls after it one finds no older line, so that the
next one goes forward from the oldest. -/
theorem recalls_after_repeated_line :
    let actions : List Action :=
      [.event (.line "ls"), .event (.type "cd Docs"), .event .submit, .event .recallPrevious]
    let world := (start .loading).run actions
    let since : List Action :=
      [.event .recallPrevious, .event .recallPrevious, .event (.type "help"),
        .event .recallPrevious, .event .recallPrevious, .event .recallNext]
    world.session.history = ⟨["ls", "cd Docs"], 1⟩ ∧
      world.submitted? (.event .submit) = some "cd Docs" ∧
      (∀ later ∈ since, later.submits = false) ∧
      ((world.act (.event .submit)).run since).session.history = ⟨["ls", "cd Docs", "cd Docs"], 1⟩ ∧
      0 < world.session.history.cursor ∧
      (world.act (.event .recallPrevious)).session.ShowsCursor := by
  intro actions world since
  have submitted : world.submitted? (.event .submit) = some "cd Docs" := rfl
  have idle : ∀ later ∈ since, later.submits = false := by simp [since, Action.submits]
  have above : 0 < world.session.history.cursor := by decide
  obtain ⟨_, _, _, submission, _, shown, _⟩ := recalled_lines_of_run .loading actions
  obtain ⟨_, _, recalled⟩ := submission (.event .submit) "cd Docs" submitted
  exact ⟨rfl, submitted, idle, recalled since idle, above, shown above⟩

end World
end TreeShell
