import TreeShell.Proofs.TerminalOutput

/-! Colours on a terminal are all that a terminal with colours adds. Colour sequences are
deleted from left to right in what is written there, and what a plain terminal shows is left:
the two put the same texts together, and the newline that closes an answer is decided alike
although one of them decides it behind a sequence. -/

namespace TreeShell
namespace Text

/-- The characters between the opening of a colour sequence and its end. -/
def isParameter (character : Char) : Bool :=
  character.isDigit || character == ';'

/-- What follows the colour sequence that a text starts with. -/
def behindColour? : List Char → Option (List Char)
  | '\x1b' :: '[' :: rest =>
    match rest.dropWhile isParameter with
    | 'm' :: behind => some behind
    | _ => none
  | _ => none

private theorem length_behindColour? {text behind : List Char} (found : behindColour? text = some behind) :
    behind.length < text.length := by
  unfold behindColour? at found
  split at found
  · rename_i rest
    split at found
    · rename_i ended
      cases found
      have shorter := (List.dropWhile_sublist isParameter (l := rest)).length_le
      rw [ended, List.length_cons] at shorter
      simp only [List.length_cons]
      omega
    · cases found
  · cases found

/-- The characters of a text, less the colour sequences among them. -/
def dropColours (text : List Char) : List Char :=
  match found : behindColour? text with
  | some behind =>
    have := length_behindColour? found
    dropColours behind
  | none =>
    match text with
    | [] => []
    | character :: rest => character :: dropColours rest
termination_by text.length

/-- A text with its colour sequences deleted. -/
def eraseColours (text : String) : String :=
  String.ofList (dropColours text.toList)

example : eraseColours "\x1b[1;34mDocs/\x1b[0m [m \x1b[2J" = "Docs/ [m \x1b[2J" := by cbv

def IsColour (mark : String) : Prop :=
  ∃ parameters : List Char, parameters.all isParameter = true ∧
    mark.toList = '\x1b' :: '[' :: (parameters ++ ['m'])

private theorem isColour_style (style : Style) : IsColour style.on ∧ IsColour style.off := by
  cases style with
  | red => exact ⟨⟨['3', '1'], by decide, rfl⟩, ⟨['3', '9'], by decide, rfl⟩⟩
  | green => exact ⟨⟨['3', '2'], by decide, rfl⟩, ⟨['3', '9'], by decide, rfl⟩⟩
  | blue => exact ⟨⟨['3', '4'], by decide, rfl⟩, ⟨['3', '9'], by decide, rfl⟩⟩
  | cyan => exact ⟨⟨['3', '6'], by decide, rfl⟩, ⟨['3', '9'], by decide, rfl⟩⟩
  | bold => exact ⟨⟨['1'], by decide, rfl⟩, ⟨['0'], by decide, rfl⟩⟩

/-- Text with colours and the text that is left without them, put together alike. -/
inductive Coloured : String → String → Prop where
  | shown {text} (all : Shown text) : Coloured text text
  | colour {mark} (colour : IsColour mark) : Coloured mark ""
  | append {before after first second} (front : Coloured before first)
      (back : Coloured after second) : Coloured (before ++ after) (first ++ second)

private theorem dropColours_of_behind {text behind : List Char} (found : behindColour? text = some behind) :
    dropColours text = dropColours behind := by
  rw [dropColours]
  split
  · rename_i same
    rw [found] at same
    cases same
    rfl
  · rename_i none
    rw [found] at none
    cases none

private theorem dropColours_cons {character : Char} (shown : isShown character = true) (rest : List Char) :
    dropColours (character :: rest) = character :: dropColours rest := by
  have none : behindColour? (character :: rest) = none := by
    unfold behindColour?
    split
    · rename_i same
      cases same
      exact absurd shown (by decide)
    · rfl
  rw [dropColours]
  split
  · rename_i some
    rw [none] at some
    cases some
  · rfl

private theorem dropColours_shown {text : List Char} (all : ∀ character ∈ text, isShown character = true)
    (rest : List Char) : dropColours (text ++ rest) = text ++ dropColours rest := by
  induction text with
  | nil => rfl
  | cons character others ih =>
    obtain ⟨shown, all⟩ := List.forall_mem_cons.mp all
    rw [List.cons_append, dropColours_cons shown, ih all, List.cons_append]

theorem IsColour.behind {mark : String} (colour : IsColour mark) (rest : List Char) :
    behindColour? (mark.toList ++ rest) = some rest := by
  obtain ⟨parameters, all, same⟩ := colour
  have ended : (parameters ++ 'm' :: rest).dropWhile isParameter = 'm' :: rest := by
    rw [List.dropWhile_append_of_pos (List.all_eq_true.mp all)]
    rfl
  simp [same, behindColour?, ended]

namespace Coloured

variable {text plain : String}

theorem dropColours_append (coloured : Coloured text plain) (rest : List Char) :
    dropColours (text.toList ++ rest) = plain.toList ++ dropColours rest := by
  induction coloured generalizing rest with
  | shown all => exact dropColours_shown all rest
  | colour colour => rw [dropColours_of_behind (colour.behind rest), String.toList_empty, List.nil_append]
  | append _ _ front back =>
    rw [String.toList_append, List.append_assoc, front, back, String.toList_append, List.append_assoc]

theorem eraseColours_eq (coloured : Coloured text plain) : eraseColours text = plain := by
  have whole := coloured.dropColours_append []
  have nothing : dropColours [] = [] := by
    rw [dropColours]
    rfl
  rw [List.append_nil, nothing, List.append_nil] at whole
  rw [eraseColours, whole, String.ofList_toList]

theorem wrap (style : Style) (coloured : Coloured text plain) : Coloured (style.wrap text) plain := by
  obtain ⟨on, off⟩ := isColour_style style
  simpa [Style.wrap] using ((colour on).append coloured).append (colour off)

theorem join {items : List α} {textOf plainOf : α → String}
    (each : ∀ item ∈ items, Coloured (textOf item) (plainOf item)) :
    Coloured (String.join (items.map textOf)) (String.join (items.map plainOf)) := by
  induction items with
  | nil => exact .shown shown_empty
  | cons item rest ih =>
    simp only [List.map_cons, String.join_cons]
    exact (each item List.mem_cons_self).append
      (ih fun other member => each other (List.mem_cons_of_mem _ member))

theorem intercalate {between : String} {items : List α} {textOf plainOf : α → String}
    (all : Shown between) (each : ∀ item ∈ items, Coloured (textOf item) (plainOf item)) :
    Coloured (between.intercalate (items.map textOf)) (between.intercalate (items.map plainOf)) := by
  induction items with
  | nil => exact .shown shown_empty
  | cons item rest ih =>
    have first := each item List.mem_cons_self
    have others := ih fun other member => each other (List.mem_cons_of_mem _ member)
    cases rest with
    | nil => simpa using first
    | cons next rest =>
      simp only [List.map_cons, String.intercalate_cons_cons]
      exact (first.append (.shown all)).append others

end Coloured

def EndsLine (text : String) : Prop :=
  text.toList.getLast? = some '\n'

instance (text : String) : Decidable (EndsLine text) :=
  inferInstanceAs (Decidable (_ = _))

def OpenLine (text : String) : Prop :=
  text ≠ "" ∧ ¬EndsLine text

instance (text : String) : Decidable (OpenLine text) :=
  inferInstanceAs (Decidable (_ ∧ _))

private theorem openLine_iff {text : String} :
    OpenLine text ↔ ∃ last, text.toList.getLast? = some last ∧ last ≠ '\n' := by
  unfold OpenLine EndsLine
  cases ended : text.toList.getLast? with
  | none =>
    have empty : text = "" := by simpa using ended
    simp [empty]
  | some last =>
    have full : text ≠ "" := by
      rintro rfl
      cases ended
    simp [full]

theorem getLast?_append {after : String} {last : Char} (before : String)
    (ended : after.toList.getLast? = some last) :
    (before ++ after).toList.getLast? = some last := by
  rw [String.toList_append, List.getLast?_append, ended, Option.some_or]

theorem openLine_append {after : String} (before : String) (opened : OpenLine after) :
    OpenLine (before ++ after) := by
  obtain ⟨last, ended, other⟩ := openLine_iff.mp opened
  exact openLine_iff.mpr ⟨last, getLast?_append before ended, other⟩

private theorem openLine_append_of_not_endsLine {before after : String} (opened : OpenLine before)
    (unended : ¬EndsLine after) : OpenLine (before ++ after) := by
  by_cases empty : after = ""
  · rwa [empty, String.append_empty]
  · exact openLine_append before ⟨empty, unended⟩

private theorem openLine_intercalate (between : String) {textOf : α → String} {item : α} {rest : List α}
    (each : ∀ other ∈ item :: rest, OpenLine (textOf other)) :
    OpenLine (between.intercalate ((item :: rest).map textOf)) := by
  induction rest generalizing item with
  | nil => simpa using each item List.mem_cons_self
  | cons next rest ih =>
    simp only [List.map_cons, String.intercalate_cons_cons]
    exact openLine_append _ (ih fun other member => each other (List.mem_cons_of_mem _ member))

private theorem stripControl_of_shown {text : String} (all : Shown text) : stripControl text = text := by
  rw [stripControl, List.filter_eq_self.mpr all, String.ofList_toList]

end Text

open Text

/-- The texts of a body as an entry shows them. An error is the sentence that it makes of what
was typed. -/
def Body.texts : Body → List String
  | .blank | .help => []
  | .text content => [content]
  | .listing entries => entries.map ListingEntry.name
  | .matches candidates => candidates
  | .error cause => [cause.message]

/-- Where a style stands around the end of a body, the text inside leaves its line open. -/
def Body.LeavesOpen : Body → Prop
  | .listing entries => ∀ entry ∈ entries, entry.name ≠ "" ∧ ¬EndsLine entry.name
  | .error cause => ¬EndsLine cause.message
  | .blank | .text _ | .help | .matches _ => True

instance : (body : Body) → Decidable body.LeavesOpen
  | .listing entries => List.decidableBAll _ entries
  | .error cause => inferInstanceAs (Decidable ¬EndsLine cause.message)
  | .blank | .text _ | .help | .matches _ => .isTrue trivial

namespace Renderer

variable {trust : ContentTrust} {prompt text plain : String}

private theorem closeLine_of_openLine (opened : OpenLine text) : closeLine text = text ++ "\n" := by
  obtain ⟨last, ended, other⟩ := openLine_iff.mp opened
  simp [closeLine, ended, other]

private theorem closeLine_of_endsLine (ended : EndsLine text) : closeLine text = text := by
  simp [closeLine, show text.toList.getLast? = some '\n' from ended]

private theorem shown_closeLine (all : Shown text) : Shown (closeLine text) :=
  Marked.nil_iff.mp (marked_closeLine (.shown all))

private theorem shown_candidateLines {candidates : List String}
    (all : ∀ candidate ∈ candidates, Shown candidate) : Shown (candidateLines candidates) := by
  have joined : Marked (candidates.flatMap fun _ => []) ("\n".intercalate (candidates.map id)) :=
    .intercalate (by decide) fun candidate member => .shown (all candidate member)
  rw [List.flatMap_eq_nil_iff.mpr fun _ _ => rfl, List.map_id, Marked.nil_iff] at joined
  exact shown_append (by decide) joined

private theorem coloured_closeLine (coloured : Coloured text plain) (opened : OpenLine text)
    (plainOpened : OpenLine plain) : Coloured (closeLine text) (closeLine plain) := by
  rw [closeLine_of_openLine opened, closeLine_of_openLine plainOpened]
  exact coloured.append (.shown (by decide))

private theorem terminalContent_of_shown (renderer : Renderer) (all : Shown text) :
    renderer.terminalContent text = text := by
  unfold terminalContent
  cases renderer.trust with
  | trusted => rfl
  | escaped => exact stripControl_of_shown all

theorem coloured_styled (style : Style) (coloured : Coloured text plain) :
    Coloured ((mk .ansi trust prompt).styled style text)
      ((mk .plain trust prompt).styled style plain) :=
  coloured.wrap style

private theorem openLine_styled (renderer : Renderer) (style : Style) (opened : OpenLine text) :
    OpenLine (renderer.styled style text) := by
  unfold styled
  split
  · exact openLine_append _ (by cases style <;> decide)
  · exact opened

private theorem coloured_item {entry : ListingEntry} (all : Shown entry.name) :
    Coloured ((mk .ansi trust prompt).terminalItem entry)
      ((mk .plain trust prompt).terminalItem entry) := by
  unfold terminalItem
  rw [terminalContent_of_shown _ all, terminalContent_of_shown _ all]
  cases entry.kind with
  | folder =>
    exact coloured_styled .bold (coloured_styled .blue (.shown (shown_append all (by decide))))
  | executable => exact coloured_styled .green (.shown all)
  | plain => exact .shown all

private theorem openLine_item (renderer : Renderer) {entry : ListingEntry} (all : Shown entry.name)
    (opened : OpenLine entry.name) : OpenLine (renderer.terminalItem entry) := by
  unfold terminalItem
  rw [terminalContent_of_shown _ all]
  cases entry.kind with
  | folder =>
    exact openLine_styled _ .bold (openLine_styled _ .blue (openLine_append _ (by decide)))
  | executable => exact openLine_styled _ .green opened
  | plain => exact opened

private theorem coloured_help : Coloured (Help.text ((mk .ansi trust prompt).styled .cyan))
    (Help.text ((mk .plain trust prompt).styled .cyan)) := by
  have columns : ∀ command ∈ Help.commands,
      Shown (command.1 ++ Help.padding command.1) ∧ Shown command.2 := by
    decide
  refine (Coloured.shown (by decide)).append (.join fun command member => ?_)
  obtain ⟨name, description⟩ := columns command member
  exact (((Coloured.shown (by decide)).append (coloured_styled .cyan (.shown name))).append
    (.shown description)).append (.shown (by decide))

private theorem endsLine_help (colour : String → String) : EndsLine (Help.text colour) := by
  have newline : "\n".toList.getLast? = some '\n' := by decide
  exact getLast?_append _ (getLast?_append _ (getLast?_append _ newline))

theorem coloured_answer {body : Body} (all : ∀ text ∈ body.texts, Shown text)
    (opened : body.LeavesOpen) :
    Coloured (closeLine ((mk .ansi trust prompt).terminalBody body))
      (closeLine ((mk .plain trust prompt).terminalBody body)) := by
  cases body with
  | blank => exact .shown shown_empty
  | text content =>
    have shown : Shown content := all content List.mem_cons_self
    simp only [terminalBody, terminalContent_of_shown _ shown]
    exact .shown (shown_closeLine shown)
  | help =>
    simp only [terminalBody, closeLine_of_endsLine (endsLine_help _)]
    exact coloured_help
  | listing entries =>
    have names : ∀ entry ∈ entries, Shown entry.name := fun entry member =>
      all entry.name (List.mem_map_of_mem member)
    cases entries with
    | nil => exact .shown shown_empty
    | cons first rest =>
      have opens (mode : RenderMode) :
          OpenLine ((mk mode trust prompt).terminalBody (.listing (first :: rest))) :=
        openLine_intercalate "  " fun entry member =>
          openLine_item _ (names entry member) (opened entry member)
      refine coloured_closeLine ?_ (opens .ansi) (opens .plain)
      exact .intercalate (by decide) fun entry member => coloured_item (names entry member)
  | «matches» candidates =>
    have shown : Shown (candidateLines candidates) := shown_candidateLines all
    simp only [terminalBody, terminalContent_of_shown _ shown]
    exact .shown (shown_closeLine shown)
  | error cause =>
    have shown : Shown cause.message := all cause.message List.mem_cons_self
    have sentence : Shown ("Error: " ++ cause.message) := shown_append (by decide) shown
    simp only [terminalBody, terminalContent_of_shown _ shown]
    have opens : OpenLine ("Error: " ++ cause.message) :=
      openLine_append_of_not_endsLine (by decide) opened
    exact coloured_closeLine (coloured_styled .red (.shown sentence)) (openLine_styled _ .red opens)
      (openLine_styled _ .red opens)

/-- Deleting the colour sequences from what a terminal with colours shows of an entry leaves
what a plain terminal shows of it. The command may hold anything, since it is shown without
its control characters in either. -/
theorem erase_ansi_eq_plain {entry : Transcript} (prompted : Shown prompt)
    (path : Shown entry.promptPath) (all : ∀ text ∈ entry.body.texts, Shown text)
    (opened : entry.body.LeavesOpen) :
    eraseColours ((mk .ansi trust prompt).render entry) = (mk .plain trust prompt).render entry := by
  have command : Shown (stripControl entry.command) := shown_stripControl entry.command
  have header : Coloured ((mk .ansi trust prompt).terminalHeader entry)
      ((mk .plain trust prompt).terminalHeader entry) :=
    ((((coloured_styled .blue (.shown path)).append (coloured_styled .green (.shown prompted))).append
      (.shown (by decide))).append (.shown command)).append (.shown (by decide))
  exact (header.append (coloured_answer all opened)).eraseColours_eq

theorem erase_coloured_listing :
    let entry : Transcript :=
      ⟨"/Home", "ls", .listing [⟨"run", .executable⟩, ⟨"notes\n1", .plain⟩, ⟨"Docs", .folder⟩]⟩
    (mk .ansi .trusted "$").render entry ≠ (mk .plain .trusted "$").render entry ∧
      Shown "$" ∧ Shown entry.promptPath ∧ (∀ text ∈ entry.body.texts, Shown text) ∧
      entry.body.LeavesOpen ∧
      eraseColours ((mk .ansi .trusted "$").render entry) = (mk .plain .trusted "$").render entry := by
  intro entry
  have prompted : Shown "$" := by decide
  have path : Shown entry.promptPath := by decide
  have all : ∀ text ∈ entry.body.texts, Shown text := by decide
  have opened : entry.body.LeavesOpen := by decide
  exact ⟨by decide, prompted, path, all, opened, erase_ansi_eq_plain prompted path all opened⟩

end Renderer
end TreeShell
