import Mathlib.Data.List.Induction
import TreeShell.Display.Sink
import TreeShell.Proofs.SessionRuns

/-! Runs of a session in front of a display. A session never asks its display for anything, so it goes
the same way in front of every display; what displays differ in is what they make of its signals. -/

namespace TreeShell

/-- What a display makes of each signal, from what it shows before. -/
structure Display (Shown : Type) where
  append : Shown → Transcript → Shown
  clear : Shown → Shown
  hide : Shown → Shown

def Display.take (display : Display Shown) (shown : Shown) : Signal → Shown
  | .append entry => display.append shown entry
  | .clear => display.clear shown
  | .hide => display.hide shown

def Record.display : Display Record where
  append record entry := record.take (.append entry)
  clear record := record.take .clear
  hide record := record.take .hide

/-- The display that writes text. It has nothing to write where it is hidden, nor where it is cleared
without a sequence for that. -/
def Renderer.display (renderer : Renderer) : Display String where
  append text entry := text ++ renderer.render entry
  clear text :=
    match renderer.clearSequence? with
    | some sequence => text ++ sequence
    | none => text
  hide text := text

/-- A session with its slot and what its display shows. -/
structure Console (Shown : Type) where
  world : World
  shown : Shown

namespace Console

def start (slot : Slot) (shown : Shown) : Console Shown :=
  ⟨.start slot, shown⟩

def act (display : Display Shown) (console : Console Shown) (action : Action) : Console Shown :=
  ⟨console.world.act action, (console.world.said action).foldl display.take console.shown⟩

def run (display : Display Shown) (console : Console Shown) (actions : List Action) :
    Console Shown :=
  actions.foldl (act display) console

theorem run_eq (display : Display Shown) (console : Console Shown) (actions : List Action) :
    console.run display actions =
      ⟨console.world.run actions, (console.world.told actions).foldl display.take console.shown⟩ := by
  induction actions generalizing console with
  | nil => rfl
  | cons action rest ih =>
    have later := ih (console.act display action)
    rw [World.told, List.foldl_append]
    exact later

end Console

namespace Renderer

theorem take_display (renderer : Renderer) (text : String) (signal : Signal) :
    renderer.display.take text signal = text ++ renderer.write signal := by
  cases signal with
  | append entry => rfl
  | clear =>
    simp only [Display.take, display, write]
    cases renderer.clearSequence? <;> simp
  | hide => simp [Display.take, display, write]

private theorem foldl_display (renderer : Renderer) (text : String) (signals : List Signal) :
    signals.foldl renderer.display.take text = text ++ renderer.writeAll signals := by
  induction signals generalizing text with
  | nil => simp [writeAll]
  | cons signal rest ih =>
    rw [List.foldl_cons, ih, take_display, writeAll, writeAll, List.map_cons, String.join_cons,
      String.append_assoc]

end Renderer

/-- The entries that signals append after the last of them that clears, or from the first one on if
none of them does. -/
def EntriesSinceClear (signals : List Signal) (entries : List Transcript) : Prop :=
  ∃ before after, signals = before ++ after ∧ (before = [] ∨ ∃ earlier, before = earlier ++ [.clear]) ∧
    .clear ∉ after ∧ entries = after.filterMap Signal.entry?

namespace Record

theorem take_display (record : Record) (signal : Signal) :
    display.take record signal = record.take signal := by
  cases signal <;> rfl

private theorem foldl_display_snoc (record : Record) (signals : List Signal) (signal : Signal) :
    (signals ++ [signal]).foldl display.take record =
      (signals.foldl display.take record).take signal := by
  rw [List.foldl_append, List.foldl_cons, List.foldl_nil, take_display]

theorem entriesSinceClear_foldl (signals : List Signal) :
    EntriesSinceClear signals (signals.foldl display.take empty).entries := by
  induction signals using List.reverseRecOn with
  | nil => exact ⟨[], [], rfl, .inl rfl, List.not_mem_nil, rfl⟩
  | append_singleton signals signal ih =>
    obtain ⟨before, after, parted, cleared, kept, held⟩ := ih
    rw [foldl_display_snoc]
    have longer (later : Signal) : signals ++ [later] = before ++ (after ++ [later]) := by
      rw [parted, List.append_assoc]
    cases signal with
    | append entry =>
      refine ⟨before, after ++ [.append entry], longer _, cleared, by simp [kept], ?_⟩
      simp [take, held, Signal.entry?]
    | clear =>
      exact ⟨signals ++ [.clear], [], (List.append_nil _).symm, .inr ⟨signals, rfl⟩,
        List.not_mem_nil, rfl⟩
    | hide =>
      refine ⟨before, after ++ [.hide], longer _, cleared, by simp [kept], ?_⟩
      simp [take, held, Signal.entry?]

end Record

namespace Session

variable {session : Session} {slot : Slot}

private theorem exists_answer (slot : Slot) (session : Session) {command : Command}
    (stays : command ≠ .clear ∧ command ≠ .exit) :
    ∃ body, (session.dispatch slot command).2 = some body := by
  cases command with
  | clear => exact absurd rfl stays.1
  | exit => exact absurd rfl stays.2
  | empty | help | unknown => exact ⟨_, rfl⟩
  | cat | ls | cd =>
    cases slot with
    | ready | loading | unavailable => exact ⟨_, rfl⟩

end Session

namespace World

variable {world : World} {action : Action}

/-- What an action may tell the display. A line is told by its one answer, with the line as it was typed
and the directory it was typed in, unless it clears the display or hides it. -/
inductive Tells (world : World) (action : Action) : List Signal → Prop where
  | answered {line body} (submitted : world.submitted? action = some line)
      (stays : Command.ofLine line ≠ .clear ∧ Command.ofLine line ≠ .exit) :
      Tells world action [.append ⟨world.session.path, line, body⟩]
  | cleared {line} (submitted : world.submitted? action = some line)
      (clears : Command.ofLine line = .clear) : Tells world action [.clear]
  | hidden {line} (submitted : world.submitted? action = some line)
      (hides : Command.ofLine line = .exit) : Tells world action [.hide]
  | noticed {body} (completes : action = .event .complete) :
      Tells world action [.append ⟨world.session.path, "", body⟩]
  | silent (idle : world.submitted? action = none) : Tells world action []

theorem said_of_answered {line : String} (submitted : world.submitted? action = some line)
    (stays : Command.ofLine line ≠ .clear ∧ Command.ofLine line ≠ .exit) :
    ∃ body, world.said action = [.append ⟨world.session.path, line, body⟩] := by
  rw [said_of_submitted submitted]
  obtain ⟨body, answered⟩ := Session.exists_answer world.slot world.session stays
  have silent : Session.signals (Command.ofLine line) = [] := by
    cases seen : Command.ofLine line with
    | clear => exact absurd seen stays.1
    | exit => exact absurd seen stays.2
    | _ => rfl
  exact ⟨body, by simp [Session.submitLine, answered, silent]⟩

theorem tells_said (world : World) (action : Action) : world.Tells action (world.said action) := by
  cases submitted : world.submitted? action with
  | some line =>
    by_cases clears : Command.ofLine line = .clear
    · have said : world.said action = [.clear] := by
        rw [said_of_submitted submitted, Session.submitLine, clears]
        rfl
      exact said ▸ .cleared submitted clears
    · by_cases hides : Command.ofLine line = .exit
      · have said : world.said action = [.hide] := by
          rw [said_of_submitted submitted, Session.submitLine, hides]
          rfl
        exact said ▸ .hidden submitted hides
      · obtain ⟨body, said⟩ := said_of_answered submitted ⟨clears, hides⟩
        exact said ▸ .answered submitted ⟨clears, hides⟩
  | none =>
    cases action with
    | change => exact .silent submitted
    | event event =>
      cases event with
      | line | submit => cases submitted
      | type | recallPrevious | recallNext => exact .silent submitted
      | complete =>
        rcases Session.completeInput_said world.session world.slot with silent | ⟨body, noticed⟩
        · have said : world.said (.event .complete) = [] := silent
          exact said ▸ .silent submitted
        · have said : world.said (.event .complete) = [world.session.notice body] := noticed
          exact said ▸ .noticed rfl

theorem hidden_of_submitted {line : String} (submitted : world.submitted? action = some line) :
    (world.act action).session.hidden = (world.session.hidden || Command.ofLine line == .exit) := by
  rw [act_of_submitted submitted]
  rfl

theorem hidden_of_idle (idle : world.submitted? action = none) :
    (world.act action).session.hidden = world.session.hidden := by
  cases action with
  | change => rfl
  | event event =>
    cases event with
    | line | submit => cases idle
    | type => rfl
    | complete =>
      simp only [act, Session.step, Session.completeInput]
      split <;> rfl
    | recallPrevious | recallNext =>
      simp only [act, Session.step, Session.withRecall]
      split <;> rfl

/-- The display that keeps entries is told to hide exactly when the session is hidden. -/
theorem hidden_act (world : World) (action : Action) (record : Record)
    (same : record.hidden = world.session.hidden) :
    ((world.said action).foldl Record.display.take record).hidden =
      (world.act action).session.hidden := by
  have tells := world.tells_said action
  generalize world.said action = signals at tells
  cases tells with
  | answered submitted stays =>
    rw [hidden_of_submitted submitted, beq_eq_false_iff_ne.mpr stays.2, Bool.or_false]
    exact same
  | cleared submitted clears =>
    rw [hidden_of_submitted submitted, clears]
    exact same.trans (Bool.or_false _).symm
  | hidden submitted hides =>
    rw [hidden_of_submitted submitted, hides]
    exact (Bool.or_true _).symm
  | noticed completes =>
    subst completes
    rw [hidden_of_idle rfl]
    exact same
  | silent idle =>
    rw [hidden_of_idle idle]
    exact same

end World

namespace Console

theorem hidden_run (console : Console Record) (same : console.shown.hidden = console.world.session.hidden)
    (actions : List Action) :
    (console.run Record.display actions).shown.hidden =
      (console.run Record.display actions).world.session.hidden := by
  induction actions generalizing console with
  | nil => exact same
  | cons action rest ih =>
    exact ih (console.act Record.display action) (console.world.hidden_act action console.shown same)

/-- In front of the two displays a session goes the same way. One is left with the entries since the
last clearing and the other with all that was said, written out in turn. -/
structure SameStory (renderer : Renderer) (slot : Slot) (actions : List Action) : Prop where
  world : ((start slot Record.empty).run Record.display actions).world =
    ((start slot "").run renderer.display actions).world
  hidden : ((start slot Record.empty).run Record.display actions).shown.hidden =
    ((start slot Record.empty).run Record.display actions).world.session.hidden
  entries : EntriesSinceClear ((World.start slot).told actions)
    ((start slot Record.empty).run Record.display actions).shown.entries
  written : ((start slot "").run renderer.display actions).shown =
    renderer.writeAll ((World.start slot).told actions)

theorem displays_of_run (renderer : Renderer) (slot : Slot) (actions : List Action) :
    SameStory renderer slot actions := by
  have kept := run_eq Record.display (start slot Record.empty) actions
  have written := run_eq renderer.display (start slot "") actions
  constructor
  · rw [kept, written]
    rfl
  · exact hidden_run _ rfl actions
  · rw [kept]
    exact Record.entriesSinceClear_foldl _
  · rw [written, Renderer.foldl_display]
    exact String.empty_append

end Console
end TreeShell
