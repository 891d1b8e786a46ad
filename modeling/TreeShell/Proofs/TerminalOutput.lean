import TreeShell.Display.Renderer
import TreeShell.Proofs.SessionRuns

/-! Control characters on a terminal. Text that is escaped shows none but newlines and tabs,
so whatever else a terminal acts on was put there by a style. One channel is left open: the
working directory in front of the prompt is written as it is. -/

namespace TreeShell

namespace Text

/-- Text without control characters other than newline and tab. -/
def Shown (text : String) : Prop :=
  ∀ character ∈ text.toList, isShown character = true

instance (text : String) : Decidable (Shown text) :=
  List.decidableBAll (isShown · = true) text.toList

/-- The control characters of a text other than newlines and tabs, in order. -/
def controls (text : String) : List Char :=
  text.toList.filter (!isShown ·)

/-- Text that is put together from these marks in order, with nothing but shown text
before, between and after them. -/
inductive Marked : List String → String → Prop where
  | shown {text} (all : Shown text) : Marked [] text
  | mark (mark : String) : Marked [mark] mark
  | append {marks later before after} (first : Marked marks before) (second : Marked later after) :
      Marked (marks ++ later) (before ++ after)

theorem shown_empty : Shown "" := by
  decide

theorem shown_append {before after : String} (first : Shown before) (second : Shown after) :
    Shown (before ++ after) := by
  intro character member
  rw [String.toList_append] at member
  rcases List.mem_append.mp member with earlier | later
  · exact first character earlier
  · exact second character later

theorem shown_stripControl (text : String) : Shown (stripControl text) := by
  intro character member
  rw [stripControl, String.toList_ofList] at member
  exact (List.mem_filter.mp member).2

@[simp] theorem controls_append (before after : String) :
    controls (before ++ after) = controls before ++ controls after := by
  simp [controls]

private theorem controls_eq_nil_iff {text : String} : controls text = [] ↔ Shown text := by
  simp [controls, Shown]

namespace Marked

variable {marks later : List String} {text : String}

private theorem append_shown {after : String} (marked : Marked marks text) (all : Shown after) :
    Marked marks (text ++ after) := by
  have both := marked.append (.shown all)
  rwa [List.append_nil] at both

theorem shown_append {before : String} (all : Shown before) (marked : Marked marks text) :
    Marked marks (before ++ text) :=
  (Marked.shown all).append marked

theorem join {items : List α} {marksOf : α → List String} {textOf : α → String}
    (each : ∀ item ∈ items, Marked (marksOf item) (textOf item)) :
    Marked (items.flatMap marksOf) (String.join (items.map textOf)) := by
  induction items with
  | nil => exact .shown shown_empty
  | cons item rest ih =>
    rw [List.flatMap_cons, List.map_cons, String.join_cons]
    exact (each item List.mem_cons_self).append
      (ih fun other member => each other (List.mem_cons_of_mem _ member))

theorem intercalate {between : String} {items : List α} {marksOf : α → List String}
    {textOf : α → String} (all : Shown between)
    (each : ∀ item ∈ items, Marked (marksOf item) (textOf item)) :
    Marked (items.flatMap marksOf) (between.intercalate (items.map textOf)) := by
  induction items with
  | nil => exact .shown shown_empty
  | cons item rest ih =>
    have first := each item List.mem_cons_self
    have others := ih fun other member => each other (List.mem_cons_of_mem _ member)
    cases rest with
    | nil => simpa using first
    | cons next rest =>
      rw [List.flatMap_cons, List.map_cons, List.map_cons, String.intercalate_cons_cons]
      exact (first.append_shown all).append others

private theorem controls_eq (marked : Marked marks text) : controls text = marks.flatMap controls := by
  induction marked with
  | shown all => exact controls_eq_nil_iff.mpr all
  | mark mark => simp
  | append _ _ first second => rw [controls_append, first, second, List.flatMap_append]

theorem nil_iff : Marked [] text ↔ Shown text :=
  ⟨fun marked => controls_eq_nil_iff.mp marked.controls_eq, .shown⟩

end Marked
end Text

open Text

/-- What a body is, less its texts. -/
inductive Body.Shape where
  | blank
  | text
  | help
  | listing (kinds : List EntryKind)
  | matches
  | error

def Body.shape : Body → Shape
  | .blank => .blank
  | .text _ => .text
  | .help => .help
  | .listing entries => .listing (entries.map ListingEntry.kind)
  | .matches _ => .matches
  | .error _ => .error

namespace RenderMode

/-- The marks that a style puts around others, where the mode has colours. -/
def styleMarks (mode : RenderMode) (style : Style) (inner : List String) : List String :=
  if mode == .ansi then style.on :: (inner ++ [style.off]) else inner

def kindMarks (mode : RenderMode) : EntryKind → List String
  | .folder => mode.styleMarks .bold (mode.styleMarks .blue [])
  | .executable => mode.styleMarks .green []
  | .plain => []

def bodyMarks (mode : RenderMode) : Body.Shape → List String
  | .blank | .text | .matches => []
  | .help => Help.commands.flatMap fun _ => mode.styleMarks .cyan []
  | .listing kinds => kinds.flatMap mode.kindMarks
  | .error => mode.styleMarks .red []

def marks (mode : RenderMode) (shape : Body.Shape) : List String :=
  mode.styleMarks .blue [] ++ (mode.styleMarks .green [] ++ mode.bodyMarks shape)

private theorem marks_plain (shape : Body.Shape) : RenderMode.plain.marks shape = [] := by
  cases shape with
  | listing kinds =>
    have unmarked : RenderMode.plain.kindMarks = fun _ => [] := by
      funext kind
      cases kind <;> rfl
    simp [marks, bodyMarks, unmarked, styleMarks]
  | _ => rfl

end RenderMode

namespace Renderer

variable {renderer : Renderer} {marks : List String} {text : String}

theorem marked_styled (style : Style) (marked : Marked marks text) :
    Marked (renderer.mode.styleMarks style marks) (renderer.styled style text) := by
  unfold styled RenderMode.styleMarks
  split
  · exact ((Marked.mark style.on).append marked).append (.mark style.off)
  · exact marked

private theorem shown_terminalContent (escaped : renderer.trust = .escaped) (text : String) :
    Shown (renderer.terminalContent text) := by
  rw [terminalContent, escaped]
  exact shown_stripControl text

private theorem marked_item (escaped : renderer.trust = .escaped) (entry : ListingEntry) :
    Marked (renderer.mode.kindMarks entry.kind) (renderer.terminalItem entry) := by
  have name := shown_terminalContent escaped entry.name
  unfold terminalItem
  cases entry.kind with
  | folder => exact marked_styled .bold (marked_styled .blue (.shown (shown_append name (by decide))))
  | executable => exact marked_styled .green (.shown name)
  | plain => exact .shown name

private theorem marked_help (renderer : Renderer) :
    Marked (renderer.mode.bodyMarks .help) (Help.text (renderer.styled .cyan)) := by
  have columns : ∀ command ∈ Help.commands,
      Shown (command.1 ++ Help.padding command.1) ∧ Shown (command.2 ++ "\n") := by
    decide
  refine .shown_append (by decide) (.join fun command member => ?_)
  obtain ⟨name, description⟩ := columns command member
  have indent : Shown "  " := by decide
  have coloured : Marked (renderer.mode.styleMarks .cyan [])
      (renderer.styled .cyan (command.1 ++ Help.padding command.1)) :=
    marked_styled .cyan (.shown name)
  simpa only [String.append_assoc] using (coloured.shown_append indent).append_shown description

theorem marked_body (escaped : renderer.trust = .escaped) : (body : Body) →
    Marked (renderer.mode.bodyMarks body.shape) (renderer.terminalBody body)
  | .blank => .shown shown_empty
  | .text content => .shown (shown_terminalContent escaped content)
  | .help => marked_help renderer
  | .listing entries => by
    rw [Body.shape, RenderMode.bodyMarks, List.flatMap_map]
    exact .intercalate (by decide) fun entry _ => marked_item escaped entry
  | .matches candidates => .shown (shown_terminalContent escaped (candidateLines candidates))
  | .error cause =>
    marked_styled .red (.shown (shown_append (by decide) (shown_terminalContent escaped _)))

theorem marked_closeLine (marked : Marked marks text) : Marked marks (closeLine text) := by
  have newline : Shown "\n" := by decide
  unfold closeLine
  split
  · rename_i ended
    have empty : text = "" := by simpa using ended
    exact empty ▸ marked
  · split
    · exact marked
    · exact marked.append_shown newline

/-- An escaped entry is the working directory, in its style, and marked text behind it. -/
theorem renderTerminal_eq (escaped : renderer.trust = .escaped) (prompt : Shown renderer.prompt)
    (entry : Transcript) :
    ∃ rest, renderer.renderTerminal entry = renderer.styled .blue entry.promptPath ++ rest ∧
      Marked (renderer.mode.styleMarks .green [] ++ renderer.mode.bodyMarks entry.body.shape) rest := by
  have command : Shown (" " ++ (stripControl entry.command ++ "\n")) :=
    shown_append (by decide) (shown_append (shown_stripControl _) (by decide))
  have prompted : Marked (renderer.mode.styleMarks .green []) (renderer.styled .green renderer.prompt) :=
    marked_styled .green (.shown prompt)
  have answered := marked_closeLine (marked_body escaped entry.body)
  refine ⟨_, ?_, (prompted.append_shown command).append answered⟩
  simp only [renderTerminal, terminalHeader, String.append_assoc]

/-- The marks of a style are all that it hides exactly if the text inside hides nothing. -/
private theorem controls_styled_eq_iff (style : Style) (text : String) :
    controls (renderer.styled style text) = (renderer.mode.styleMarks style []).flatMap controls ↔
      Shown text := by
  rw [← controls_eq_nil_iff]
  unfold styled RenderMode.styleMarks
  split
  · simp [Style.wrap]
  · simp

/-- An escaped entry is marked as its shape says exactly if its working directory hides
nothing. -/
theorem marked_renderTerminal_iff (escaped : renderer.trust = .escaped)
    (prompt : Shown renderer.prompt) (entry : Transcript) :
    Marked (renderer.mode.marks entry.body.shape) (renderer.renderTerminal entry) ↔
      Shown entry.promptPath := by
  obtain ⟨rest, whole, marked⟩ := renderTerminal_eq escaped prompt entry
  rw [whole, RenderMode.marks]
  constructor
  · intro all
    have counted := all.controls_eq
    rw [controls_append, List.flatMap_append, marked.controls_eq] at counted
    exact (controls_styled_eq_iff .blue entry.promptPath).mp (List.append_cancel_right counted)
  · intro path
    exact (marked_styled .blue (.shown path)).append marked

end Renderer

namespace Session

variable {session : Session} {slot : Slot} {entry : Transcript}

theorem promptPath_of_submitLine {line : String}
    (said : .append entry ∈ (session.submitLine slot line).2) : entry.promptPath = session.path := by
  have apart : .append entry ∉ signals (Command.ofLine line) := by
    cases Command.ofLine line <;> simp [signals]
  rcases List.mem_append.mp said with signal | answer
  · exact absurd signal apart
  · obtain ⟨body, _, same⟩ := Option.map_eq_some_iff.mp (Option.mem_toList.mp answer)
    cases same
    rfl

theorem promptPath_of_completeInput (said : .append entry ∈ (session.completeInput slot).2) :
    entry.promptPath = session.path := by
  rcases completeInput_said session slot with silent | ⟨body, noticed⟩
  · rw [silent] at said
    cases said
  · rw [noticed] at said
    cases List.mem_singleton.mp said
    rfl

theorem promptPath_of_said {event : Event} (said : .append entry ∈ (session.step slot event).2) :
    entry.promptPath = session.path := by
  cases event with
  | line text => exact promptPath_of_submitLine said
  | submit => exact promptPath_of_submitLine said
  | complete => exact promptPath_of_completeInput said
  | type text => cases said
  | recallPrevious => cases said
  | recallNext => cases said

end Session

namespace Renderer

/-- What a session says, escaped, hides no control character on a plain terminal, and on one
with colours none but the marks of the entry's shape, exactly if the path of the directory that
the session stands in hides none. Nothing else that is shown can bring one in. -/
theorem escaped_output_of_session {renderer : Renderer} {session : Session} {slot : Slot}
    {event : Event} {entry : Transcript} (escaped : renderer.trust = .escaped)
    (prompt : Shown renderer.prompt) (said : .append entry ∈ (session.step slot event).2) :
    (renderer.mode = .plain → (Shown (renderer.render entry) ↔ Shown session.path)) ∧
    (renderer.mode = .ansi →
      (Marked (RenderMode.ansi.marks entry.body.shape) (renderer.render entry) ↔
        Shown session.path)) := by
  have exactly := marked_renderTerminal_iff escaped prompt entry
  rw [Session.promptPath_of_said said] at exactly
  refine ⟨fun plain => ?_, fun ansi => ?_⟩
  · rw [plain, RenderMode.marks_plain, Marked.nil_iff] at exactly
    rwa [render, plain]
  · rw [ansi] at exactly
    rwa [render, ansi]

end Renderer

/-- A root with one folder, whose name is the sequence that clears a screen. -/
def clearingTree : FileTree where
  root := .rootFolder [.folderUnder "/Home" "\x1b[2J" []]
  ordered := by
    have folder : (Node.folderUnder "/Home" "\x1b[2J" []).Ordered := Node.ordered_collected (by simp)
    exact Node.ordered_collected (by simpa using folder)
  wellFormed := Node.rootFault?_eq_none_iff.mp (by decide)

namespace Renderer

/-- Once a session has entered that folder, its next entry clears the screen of a plain
terminal, escaped or not. -/
theorem clearing_path_not_shown :
    let renderer : Renderer := ⟨.plain, .escaped, "$"⟩
    let world := (World.start (.ready clearingTree)).run [.event (.line "cd \x1b[2J")]
    let entry : Transcript := ⟨"/Home/\x1b[2J", "cd", .blank⟩
    Shown renderer.prompt ∧ world.said (.event (.line "cd")) = [.append entry] ∧
      renderer.render entry = "/Home/\x1b[2J$ cd\n" ∧ ¬Shown (renderer.render entry) :=
  ⟨by decide, by decide, by decide, by decide⟩

end Renderer

/-- A root with one file, whose name rings a bell and whose text clears a screen. -/
def bellTree : FileTree where
  root := .rootFolder [.fileUnder "/Home" "\x07bell" "\x1b[2Jding" false]
  ordered := Node.ordered_collected (by simp [Node.fileUnder, Node.Ordered])
  wellFormed := Node.rootFault?_eq_none_iff.mp (by decide)

namespace Renderer

/-- Its listing, its text and an error about it bring those characters to a terminal only where the
tree is trusted. -/
theorem escaped_bell_marked :
    let entries : List Transcript := [⟨"/Home", "ls", .listing [⟨"\x07bell", .plain⟩]⟩,
      ⟨"/Home", "cat \x07bell", .text "\x1b[2Jding"⟩,
      ⟨"/Home", "cd \x07bell", .error (.notADirectory "\x07bell")⟩]
    ∀ entry ∈ entries, ¬Shown ((⟨.plain, .trusted, "$"⟩ : Renderer).render entry) ∧
      .append entry ∈ (Session.start.step (.ready bellTree) (.line entry.command)).2 ∧
      Shown ((⟨.plain, .escaped, "$"⟩ : Renderer).render entry) ∧
      Marked (RenderMode.ansi.marks entry.body.shape)
        ((⟨.ansi, .escaped, "$"⟩ : Renderer).render entry) := by
  intro entries entry member
  have trusted : ∀ entry ∈ entries, ¬Shown ((⟨.plain, .trusted, "$"⟩ : Renderer).render entry) := by
    decide
  have said : ∀ entry ∈ entries,
      .append entry ∈ (Session.start.step (.ready bellTree) (.line entry.command)).2 := by
    decide +kernel
  have path : Shown Session.start.path := by decide
  refine ⟨trusted entry member, said entry member, ?_, ?_⟩
  · exact ((escaped_output_of_session rfl (by decide) (said entry member)).1 rfl).mpr path
  · exact ((escaped_output_of_session rfl (by decide) (said entry member)).2 rfl).mpr path

end Renderer
end TreeShell
