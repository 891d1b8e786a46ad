import TreeShell.Proofs.CompletionResolution
import TreeShell.Proofs.SessionRuns

/-! What a session takes from its slot. A command looks into the slot exactly if it is said to need the
tree, and a completion does if there is an argument to complete. While there is no tree, the command is
refused before anything else about it matters. Events that do not look there go on in the same way
beside any loader, and so does a run of them. -/

namespace TreeShell

namespace Session

variable {session : Session} {slot : Slot} {command : Command} {line : String} {event : Event}
  {cause : ShellError}

/-- What comes of a line that is refused for want of a tree. -/
def refuse (session : Session) (line : String) (cause : ShellError) : Session × List Signal :=
  ({ session with history := session.history.record line, input := "" },
    [.append ⟨session.path, line, .error cause⟩])

theorem dispatch_of_unneeded (unneeded : command.needsTree = false) (slot other : Slot) :
    session.dispatch slot command = session.dispatch other command := by
  cases command with
  | cat | ls | cd => cases unneeded
  | _ => rfl

theorem submitLine_of_refused (needed : (Command.ofLine line).needsTree = true)
    (refused : slot.require = .error cause) :
    session.submitLine slot line = session.refuse line cause := by
  cases seen : Command.ofLine line with
  | cat | ls | cd => simp [submitLine, seen, dispatch, refused, signals, refuse]
  | _ => simp [seen, Command.needsTree] at needed

/-- An empty slot and a broken one are told apart by every line that needs the tree. -/
theorem submitLine_eq_iff :
    (∀ slot other, session.submitLine slot line = session.submitLine other line) ↔
      (Command.ofLine line).needsTree = false := by
  constructor
  · intro same
    rw [← Bool.not_eq_true]
    intro needed
    have differ := same .loading (.unavailable "")
    rw [submitLine_of_refused needed rfl, submitLine_of_refused needed rfl] at differ
    simp [refuse] at differ
  · intro unneeded slot other
    simp only [submitLine, dispatch_of_unneeded unneeded slot other]

theorem completeInput_eq_iff :
    (∀ slot other, session.completeInput slot = session.completeInput other) ↔
      Completion.request? session.input = none := by
  constructor
  · intro same
    have differ := same .loading (.unavailable "")
    cases asked : Completion.request? session.input with
    | none => rfl
    | some request => simp [completeInput, preview, asked, Slot.require, notice] at differ
  · intro unasked slot other
    simp only [completeInput, preview, unasked]

/-- Whether an event looks into the slot. -/
def asks (session : Session) : Event → Bool
  | .line text => (Command.ofLine text).needsTree
  | .submit => (Command.ofLine session.input).needsTree
  | .complete => (Completion.request? session.input).isSome
  | .type _ | .recallPrevious | .recallNext => false

theorem step_eq_iff :
    (∀ slot other, session.step slot event = session.step other event) ↔
      session.asks event = false := by
  cases event with
  | line text => exact submitLine_eq_iff
  | submit => exact submitLine_eq_iff
  | complete => exact completeInput_eq_iff.trans (by simp [asks])
  | type | recallPrevious | recallNext => exact ⟨fun _ => rfl, fun _ _ _ => rfl⟩

end Session

/-- What happens at the prompt in an action, unless it is a loader's. -/
def Action.event? : Action → Option Event
  | .event happened => some happened
  | .change _ => none

namespace World

variable {world other : World} {actions others : List Action}

def asks (world : World) : Action → Bool
  | .event event => world.session.asks event
  | .change _ => false

def asked (world : World) : List Action → Bool
  | [] => false
  | action :: rest => world.asks action || (world.act action).asked rest

def atPrompt (actions : List Action) : List Action :=
  (actions.filterMap Action.event?).map .event

theorem atPrompt_event (event : Event) (rest : List Action) :
    atPrompt (.event event :: rest) = .event event :: atPrompt rest := by
  have here : (Action.event event).event? = some event := rfl
  rw [atPrompt, List.filterMap_cons_some here, List.map_cons, atPrompt]

theorem atPrompt_change (change : Slot.Change) (rest : List Action) :
    atPrompt (.change change :: rest) = atPrompt rest := by
  rw [atPrompt, List.filterMap_cons_none rfl, atPrompt]

def beside (world : World) (slot : Slot) : World :=
  { world with slot }

private theorem beside_of_session (same : world.session = other.session) (slot : Slot) :
    world.beside slot = other.beside slot := by
  unfold beside
  rw [same]

theorem beside_act_event {event : Event} (unasked : world.session.asks event = false) (slot : Slot) :
    (world.beside slot).act (.event event) = (world.act (.event event)).beside slot := by
  have same := Session.step_eq_iff.mpr unasked slot world.slot
  simp only [act, beside, same]

theorem asked_beside (slot : Slot) :
    (world.beside slot).asked (atPrompt actions) = world.asked actions := by
  induction actions generalizing world with
  | nil => rfl
  | cons action rest ih =>
    cases action with
    | change change =>
      rw [atPrompt_change]
      exact @ih (world.act (.change change))
    | event event =>
      rw [atPrompt_event, asked, asked]
      have looks : (world.beside slot).asks (.event event) = world.asks (.event event) := rfl
      -- An event that looks may part the two runs, but by then both have looked.
      cases unasked : world.asks (.event event) with
      | true => rw [looks, unasked, Bool.true_or, Bool.true_or]
      | false => rw [looks, beside_act_event unasked, ih, unasked]

theorem run_beside (unasked : world.asked actions = false) (slot : Slot) :
    ((world.beside slot).run (atPrompt actions)).session = (world.run actions).session ∧
      (world.beside slot).told (atPrompt actions) = world.told actions := by
  induction actions generalizing world with
  | nil => exact ⟨rfl, rfl⟩
  | cons action rest ih =>
    obtain ⟨looks, later⟩ := Bool.or_eq_false_iff.mp unasked
    have rested := ih later
    cases action with
    | change =>
      rw [atPrompt_change]
      exact rested
    | event event =>
      have said : (world.beside slot).said (.event event) = world.said (.event event) :=
        congrArg Prod.snd (Session.step_eq_iff.mpr looks slot world.slot)
      rw [atPrompt_event, run_cons, run_cons, told, told, said, beside_act_event looks, rested.2]
      exact ⟨rested.1, rfl⟩

/-- Two runs agree if the same happens at their prompts and one of them never looks into the slot. -/
theorem run_eq_of_unasked (sessions : world.session = other.session)
    (prompts : actions.filterMap Action.event? = others.filterMap Action.event?)
    (unasked : world.asked actions = false) :
    (world.run actions).session = (other.run others).session ∧
      world.told actions = other.told others := by
  have alone : world.beside .loading = other.beside .loading := beside_of_session sessions .loading
  have same : atPrompt actions = atPrompt others := congrArg (List.map Action.event) prompts
  have unasked' : other.asked others = false := by
    rw [← asked_beside .loading, ← alone, ← same, asked_beside, unasked]
  obtain ⟨session, told⟩ := run_beside unasked .loading
  obtain ⟨session', told'⟩ := run_beside unasked' .loading
  rw [← session, ← told, ← session', ← told', alone, same]
  exact ⟨rfl, rfl⟩

/-- A line depends on the slot exactly if its command is said to need the tree. Without a tree such a line
is refused for that reason, whatever its arguments, and the session stays where it is. Of the other
events only a completion with an argument depends on the slot, and all that loaders do is lost on a run in
which nothing does. -/
theorem slot_matters_iff_tree_needed :
    (∀ (session : Session) line, (Command.ofLine line).needsTree = false ↔
      ∀ slot other, session.submitLine slot line = session.submitLine other line) ∧
    (∀ (session : Session) line, (Command.ofLine line).needsTree = true →
      session.submitLine .loading line = session.refuse line .systemNotReady ∧
      ∀ reason, session.submitLine (.unavailable reason) line =
        session.refuse line (.fileSystemUnavailable reason)) ∧
    (∀ (session : Session) event, session.asks event = false ↔
      ∀ slot other, session.step slot event = session.step other event) ∧
    ∀ (world other : World) actions others, world.session = other.session →
      actions.filterMap Action.event? = others.filterMap Action.event? → world.asked actions = false →
      (world.run actions).session = (other.run others).session ∧
        world.told actions = other.told others := by
  refine ⟨fun session line => Session.submitLine_eq_iff.symm, fun session line needed => ?_,
    fun session event => Session.step_eq_iff.symm, fun _ _ _ _ => run_eq_of_unasked⟩
  exact ⟨Session.submitLine_of_refused needed rfl, fun _ => Session.submitLine_of_refused needed rfl⟩

/-- The tree comes and goes, and a session that asks for help and leaves never learns of it. -/
theorem run_beside_loaders :
    let quiet : List Action := [.event (.line "help"), .event (.type "exit"), .event .submit]
    let busy : List Action := [.event (.line "help"), .change (.load (.error "gone")),
      .event (.type "exit"), .change (.install FileTree.sampleTree), .event .submit]
    (start .loading).asked quiet = false ∧
      (start (.unavailable "gone")).told busy =
        [.append ⟨"/Home", "help", .help⟩, .hide] ∧
      (Command.ofLine "cat").needsTree = true ∧
      Session.start.submitLine .loading "cat" =
        (⟨"/Home", ⟨["cat"], 1⟩, "", false⟩, [.append ⟨"/Home", "cat", .error .systemNotReady⟩]) := by
  intro quiet busy
  obtain ⟨_, refused, _, runs⟩ := slot_matters_iff_tree_needed
  have unasked : (start .loading).asked quiet = false := by decide
  have needed : (Command.ofLine "cat").needsTree = true := by decide
  have same := runs (start .loading) (start (.unavailable "gone")) quiet busy rfl rfl unasked
  exact ⟨unasked, same.2.symm.trans (by decide), needed, (refused Session.start "cat" needed).1⟩

end World
end TreeShell
