import TreeShell.Reload
import TreeShell.Shell.Session

/-! Runs of a session beside whoever loads its tree. Between two events at the prompt
the slot may change in any way and any number of times; a run is a list of what
happened, in order, and every point of a run is the end of a shorter one. -/

namespace TreeShell

/-- What happens to a slot from outside of the session. What a load finds is left open. -/
inductive Slot.Change where
  | install (tree : FileTree)
  | fail (reason : String)
  | load (outcome : Except String FileTree)
  | reload (outcome : Except String FileTree)

def Slot.change (slot : Slot) : Slot.Change → Slot
  | .install tree => .ready tree
  | .fail reason => .unavailable reason
  | .load outcome => slot.load outcome
  | .reload outcome => slot.reload outcome

theorem Slot.loadFrom_change (slot : Slot) (objection : List UInt8 → String) (service : Service)
    (disk : Disk) (source : TreeSource) : (slot.loadFrom objection service disk source).1 =
      slot.change (.load ((source.fetch service disk).mapError (Failure.message objection))) :=
  rfl

theorem Slot.reloadFrom_change (slot : Slot) (objection : List UInt8 → String) (disk : Disk)
    (plan : ReloadPlan) : (slot.reloadFrom objection disk plan).1 =
      slot.change (.reload ((plan.reload disk).mapError (Failure.message objection))) :=
  rfl

def Signal.entry? : Signal → Option Transcript
  | .append entry => some entry
  | .clear | .hide => none

def Session.submitted? (session : Session) : Event → Option String
  | .line text => some text
  | .submit => some session.input
  | _ => none

inductive Action where
  | event (event : Event)
  | change (change : Slot.Change)

/-- Whether an action submits a line, whatever line that is. -/
def Action.submits : Action → Bool
  | .event (.line _) | .event .submit => true
  | _ => false

def submissions (lines : List String) : List Action :=
  lines.map fun line => .event (.line line)

/-- A session and the slot that it shares with its loaders. -/
structure World where
  slot : Slot
  session : Session

namespace World

def start (slot : Slot) : World := ⟨slot, Session.start⟩

def said (world : World) : Action → List Signal
  | .event event => (world.session.step world.slot event).2
  | .change _ => []

def act (world : World) : Action → World
  | .event event => { world with session := (world.session.step world.slot event).1 }
  | .change change => { world with slot := world.slot.change change }

def run (world : World) (actions : List Action) : World :=
  actions.foldl act world

def told (world : World) : List Action → List Signal
  | [] => []
  | action :: rest => world.said action ++ (world.act action).told rest

theorem run_cons (world : World) (action : Action) (rest : List Action) :
    world.run (action :: rest) = (world.act action).run rest :=
  rfl

theorem run_snoc (world : World) (actions : List Action) (action : Action) :
    world.run (actions ++ [action]) = (world.run actions).act action :=
  List.foldl_append

def submitted? (world : World) : Action → Option String
  | .event event => world.session.submitted? event
  | .change _ => none

def submittedLines (world : World) : List Action → List String
  | [] => []
  | action :: rest => (world.submitted? action).toList ++ (world.act action).submittedLines rest

/-- An action submits a line whose command reads the tree that stands in the slot. -/
structure Reads (world : World) (action : Action) (line : String) (tree : FileTree) : Prop where
  submitted : ∃ event, action = .event event ∧ world.session.submitted? event = some line
  needsTree : (Command.ofLine line).needsTree = true
  ready : world.slot = .ready tree

end World

theorem Session.step_of_submitted {session : Session} {slot : Slot} {event : Event} {line : String}
    (submitted : session.submitted? event = some line) :
    session.step slot event = session.submitLine slot line := by
  cases event with
  | line text => cases submitted; rfl
  | submit => cases submitted; rfl
  | type | complete | recallPrevious | recallNext => cases submitted

theorem World.act_of_submitted {world : World} {action : Action} {line : String}
    (submitted : world.submitted? action = some line) :
    world.act action =
      { world with session := (world.session.submitLine world.slot line).1 } := by
  cases action with
  | change => cases submitted
  | event event =>
    rw [submitted?] at submitted
    rw [act, Session.step_of_submitted submitted]

theorem World.said_of_submitted {world : World} {action : Action} {line : String}
    (submitted : world.submitted? action = some line) :
    world.said action = (world.session.submitLine world.slot line).2 := by
  cases action with
  | change => cases submitted
  | event event =>
    rw [submitted?] at submitted
    rw [said, Session.step_of_submitted submitted]

theorem Session.step_path_of_not_submitted {session : Session} {slot : Slot} {event : Event}
    (idle : session.submitted? event = none) : (session.step slot event).1.path = session.path := by
  cases event with
  | line | submit => cases idle
  | type => rfl
  | complete =>
    simp only [step, completeInput]
    split <;> rfl
  | recallPrevious | recallNext =>
    simp only [step, withRecall]
    split <;> rfl

theorem Session.completeInput_said (session : Session) (slot : Slot) :
    (session.completeInput slot).2 = [] ∨
      ∃ body, (session.completeInput slot).2 = [session.notice body] := by
  unfold completeInput
  split
  case h_2 => exact .inl rfl
  case h_3 => exact .inl rfl
  all_goals exact .inr ⟨_, rfl⟩

end TreeShell
