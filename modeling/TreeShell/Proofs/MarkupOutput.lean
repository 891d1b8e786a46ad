import TreeShell.Proofs.TerminalOutput

/-! Markup around text. Escaped text holds no character that tags are made of, so the tags of
an entry come from its templates and follow from its shape. What was typed is escaped whatever
is trusted, so the paragraph that repeats it ends where its own template ends. -/

namespace TreeShell

namespace Text

/-- The characters that begin and end tags and the values in them. -/
def isTag (character : Char) : Bool :=
  character == '<' || character == '>' || character == '"' || character == '\''

/-- The characters of a text that tags are made of, in order. -/
def skeleton (text : String) : List Char :=
  text.toList.filter isTag

def entities : List String :=
  ["&amp;", "&lt;", "&gt;", "&quot;", "&#39;"]

/-- Every ampersand of a text begins an entity in it. -/
def EntitiesOnly (text : String) : Prop :=
  ∀ rest, '&' :: rest <:+ text.toList → ∃ entity ∈ entities, entity.toList <+: '&' :: rest

/-- Text whose tags leave this skeleton, and whose ampersands all begin entities. -/
structure Framed (tags : List Char) (text : String) : Prop where
  skeleton_eq : skeleton text = tags
  entitiesOnly : EntitiesOnly text

theorem skeleton_append (before after : String) :
    skeleton (before ++ after) = skeleton before ++ skeleton after := by
  simp [skeleton]

theorem skeleton_join (texts : List String) :
    skeleton (String.join texts) = texts.flatMap skeleton := by
  induction texts with
  | nil => rfl
  | cons text rest ih => rw [String.join_cons, skeleton_append, ih, List.flatMap_cons]

private theorem entitiesOnly_of_notMem {text : String} (absent : '&' ∉ text.toList) : EntitiesOnly text := by
  intro rest tail
  exact absurd (tail.subset List.mem_cons_self) absent

private theorem entitiesOnly_entity {entity : String} (listed : entity ∈ entities) : EntitiesOnly entity := by
  have opened : ∀ entity ∈ entities, ∃ body, entity.toList = '&' :: body ∧ '&' ∉ body := by
    simp [entities]
  obtain ⟨body, spelled, single⟩ := opened entity listed
  intro rest tail
  rw [spelled] at tail
  rcases List.suffix_cons_iff.mp tail with whole | inside
  · refine ⟨entity, listed, ?_⟩
    exact (spelled.trans whole.symm) ▸ List.prefix_rfl
  · exact absurd (inside.subset List.mem_cons_self) single

theorem EntitiesOnly.append {before after : String} (first : EntitiesOnly before)
    (second : EntitiesOnly after) : EntitiesOnly (before ++ after) := by
  intro rest tail
  obtain ⟨earlier, parted⟩ := tail
  rw [String.toList_append] at parted
  rcases List.append_eq_append_iff.mp parted with ⟨part, whole, later⟩ | ⟨part, _, later⟩
  · cases part with
    | nil => exact second rest ⟨[], later⟩
    | cons head part =>
      obtain ⟨rfl, rfl⟩ := List.cons.inj later
      obtain ⟨entity, listed, found⟩ := first part ⟨earlier, whole.symm⟩
      refine ⟨entity, listed, found.trans ?_⟩
      exact ⟨after.toList, rfl⟩
  · exact second rest ⟨part, later.symm⟩

theorem EntitiesOnly.join {texts : List String} (each : ∀ text ∈ texts, EntitiesOnly text) :
    EntitiesOnly (String.join texts) := by
  induction texts with
  | nil => exact entitiesOnly_of_notMem (by decide)
  | cons text rest ih =>
    rw [String.join_cons]
    apply (each text List.mem_cons_self).append
    apply ih
    intro other member
    exact each other (List.mem_cons_of_mem _ member)

namespace Framed

variable {tags later : List Char} {text : String}

theorem append {after : String} (first : Framed tags text) (second : Framed later after) :
    Framed (tags ++ later) (text ++ after) where
  skeleton_eq := by rw [skeleton_append, first.skeleton_eq, second.skeleton_eq]
  entitiesOnly := first.entitiesOnly.append second.entitiesOnly

theorem fixed (text : String) (absent : '&' ∉ text.toList := by decide) :
    Framed (skeleton text) text :=
  ⟨rfl, entitiesOnly_of_notMem absent⟩

theorem empty : Framed [] "" :=
  ⟨rfl, entitiesOnly_of_notMem (by decide)⟩

theorem untagged {more : String} (framed : Framed tags text) (none : Framed [] more) :
    Framed tags (text ++ more) := by
  have both := framed.append none
  rwa [List.append_nil] at both

theorem beside {first second after : String} (before : Framed (skeleton first) text)
    (behind : Framed (skeleton second) after) : Framed (skeleton (first ++ second)) (text ++ after) := by
  rw [skeleton_append]
  exact before.append behind

theorem join {items : List α} {tagsOf : α → List Char} {textOf : α → String}
    (each : ∀ item ∈ items, Framed (tagsOf item) (textOf item)) :
    Framed (items.flatMap tagsOf) (String.join (items.map textOf)) where
  skeleton_eq := by
    rw [skeleton_join, List.flatMap_map, List.flatMap_def, List.flatMap_def]
    apply congrArg List.flatten
    apply List.map_congr_left
    intro item member
    exact (each item member).skeleton_eq
  entitiesOnly := by
    apply EntitiesOnly.join
    intro text member
    obtain ⟨item, inside, rfl⟩ := List.mem_map.mp member
    exact (each item inside).entitiesOnly

theorem intercalate {between : String} {items : List α} {tagsOf : α → List Char}
    {textOf : α → String} (untagged : Framed [] between)
    (each : ∀ item ∈ items, Framed (tagsOf item) (textOf item)) :
    Framed (items.flatMap tagsOf) (between.intercalate (items.map textOf)) := by
  induction items with
  | nil => exact empty
  | cons item rest ih =>
    have first := each item List.mem_cons_self
    have others := ih fun other member => each other (List.mem_cons_of_mem _ member)
    cases rest with
    | nil => simpa using first
    | cons next rest =>
      rw [List.flatMap_cons, List.map_cons, List.map_cons, String.intercalate_cons_cons]
      have joined := (first.append untagged).append others
      rwa [List.append_nil] at joined

end Framed

/-- A character is written as one of the entities, or as itself where it is none of the five. -/
private theorem entity_cases (character : Char) :
    String.ofList (entity character) ∈ entities ∨
      (entity character = [character] ∧ character ≠ '&' ∧ isTag character = false) := by
  unfold entity
  split
  case h_6 amp lt gt quote apostrophe =>
    right
    refine ⟨rfl, amp, ?_⟩
    simp only [isTag, Bool.or_eq_false_iff, beq_eq_false_iff_ne]
    exact ⟨⟨⟨lt, gt⟩, quote⟩, apostrophe⟩
  all_goals
    left
    decide

private theorem framed_entity (character : Char) : Framed [] (String.ofList (entity character)) := by
  have untagged : ∀ entity ∈ entities, skeleton entity = [] := by
    decide
  rcases entity_cases character with listed | ⟨itself, notAmp, notTag⟩
  · exact ⟨untagged _ listed, entitiesOnly_entity listed⟩
  · rw [itself]
    refine ⟨by simp [skeleton, notTag], entitiesOnly_of_notMem ?_⟩
    simpa using notAmp.symm

theorem escapeMarkup_eq_join (text : String) :
    escapeMarkup text = String.join (text.toList.map fun character => String.ofList (entity character)) := by
  unfold escapeMarkup
  induction text.toList with
  | nil => rfl
  | cons character rest ih =>
    rw [List.flatMap_cons, String.ofList_append, ih, List.map_cons, String.join_cons]

theorem framed_escapeMarkup (text : String) : Framed [] (escapeMarkup text) := by
  rw [escapeMarkup_eq_join]
  have joined : Framed (text.toList.flatMap fun _ => []) _ :=
    .join fun character _ => framed_entity character
  rwa [List.flatMap_eq_nil_iff.mpr fun _ _ => rfl] at joined

/-- Text up to the first end of a paragraph, that end included. -/
def untilParagraphEnd : List Char → List Char
  | [] => []
  | character :: rest =>
    if "</p>".toList.isPrefixOf (character :: rest) then "</p>".toList
    else character :: untilParagraphEnd rest

def firstParagraph (text : String) : String :=
  String.ofList (untilParagraphEnd text.toList)

private theorem untilParagraphEnd_append {before : List Char} (untagged : '<' ∉ before) (after : List Char) :
    untilParagraphEnd (before ++ after) = before ++ untilParagraphEnd after := by
  induction before with
  | nil => rfl
  | cons character rest ih =>
    rw [List.mem_cons, not_or] at untagged
    obtain ⟨notHere, notLater⟩ := untagged
    simp [untilParagraphEnd, ih notLater, notHere]

theorem notMem_escapeMarkup {character : Char} (tag : isTag character = true) (text : String) :
    character ∉ (escapeMarkup text).toList := by
  intro member
  have kept : character ∈ skeleton (escapeMarkup text) := List.mem_filter.mpr ⟨member, tag⟩
  rw [(framed_escapeMarkup text).skeleton_eq] at kept
  cases kept

end Text

open Text

def EntryKind.template : EntryKind → String
  | .folder => "<li> <span class=\"folder\">" ++ "/</span></li>"
  | .executable => "<li> <span class=\"executable\">" ++ "</span></li>"
  | .plain => "<li> <span class=\"file\">" ++ "</span></li>"

/-- What a body of some shape is written as, less its texts. -/
def Body.Shape.template : Body.Shape → String
  | .blank | .text | .matches => ""
  | .help => Help.markup
  | .listing kinds => "<ul>" ++ String.join (kinds.map EntryKind.template) ++ "</ul>"
  | .error => "<span class=\"error\">Error: " ++ "</span>"

namespace Renderer

/-- The paragraph that repeats what was typed, less its texts. -/
def headerTemplate : String :=
  "<p class=\"line\">" ++ "<span class=\"green\">" ++ "</span> " ++ "</p>"

/-- What an entry with a body of some shape is written as, less its texts. -/
def entryTemplate (shape : Body.Shape) : String :=
  headerTemplate ++ "<p class=\"line\">" ++ shape.template ++ "</p>\n"

def typedParagraph (renderer : Renderer) (entry : Transcript) : String :=
  "<p class=\"line\">" ++ escapeMarkup entry.promptPath ++ "<span class=\"green\">" ++
    escapeMarkup renderer.prompt ++ "</span> " ++ escapeMarkup entry.command ++ "</p>"

variable {renderer : Renderer}

theorem framed_markupContent (escaped : renderer.trust = .escaped) (text : String) :
    Framed [] (renderer.markupContent text) := by
  rw [markupContent, escaped]
  exact framed_escapeMarkup text

private theorem framed_markupItem (escaped : renderer.trust = .escaped) (entry : ListingEntry) :
    Framed (skeleton entry.kind.template) (renderer.markupItem entry) := by
  have name := framed_markupContent escaped entry.name
  unfold markupItem
  cases entry.kind with
  | folder => exact ((Framed.fixed _).untagged name).beside (.fixed _)
  | executable => exact ((Framed.fixed _).untagged name).beside (.fixed _)
  | plain => exact ((Framed.fixed _).untagged name).beside (.fixed _)

private theorem framed_items (escaped : renderer.trust = .escaped) (entries : List ListingEntry) :
    Framed (skeleton (String.join ((entries.map ListingEntry.kind).map EntryKind.template)))
      (" ".intercalate (entries.map renderer.markupItem)) := by
  have blank : Framed [] " " := ⟨by decide, entitiesOnly_of_notMem (by decide)⟩
  rw [skeleton_join, List.map_map, List.flatMap_map]
  apply Framed.intercalate blank
  intro entry _
  exact framed_markupItem escaped entry

private theorem framed_help : Framed (skeleton Help.markup) Help.markup := by
  have columns : ∀ command ∈ Help.commands, '&' ∉ command.1.toList ∧ '&' ∉ command.2.toList := by
    simp [Help.commands]
  have padding (name : String) : '&' ∉ (Help.padding name).toList := by
    simp [Help.padding]
  have rows : EntitiesOnly (String.join (Help.commands.map fun command =>
      "  <span class=\"command\">" ++ command.1 ++ "</span>" ++ Help.padding command.1 ++
        command.2 ++ "\n")) := by
    apply EntitiesOnly.join
    intro row member
    obtain ⟨command, listed, rfl⟩ := List.mem_map.mp member
    obtain ⟨plainName, plainDescription⟩ := columns command listed
    apply entitiesOnly_of_notMem
    simp [plainName, plainDescription, padding]
  have usage : '&' ∉ ("<div class=\"cli-help\">\n        <pre>\n" ++
      "Usage: [[<span class=\"command\">command</span>] " ++
      "[<span class=\"command\">argument</span>]]\n\nCommands:\n").toList := by
    simp
  have closed : '&' ∉ "        </pre>\n    </div>".toList := by
    decide
  exact ⟨rfl, ((entitiesOnly_of_notMem usage).append rows).append (entitiesOnly_of_notMem closed)⟩

theorem framed_markupBody (escaped : renderer.trust = .escaped) (body : Body) :
    Framed (skeleton body.shape.template) (renderer.markupBody body) := by
  cases body with
  | blank => exact Framed.empty
  | text content => exact framed_markupContent escaped content
  | help => exact framed_help
  | listing entries => exact ((Framed.fixed _).beside (framed_items escaped entries)).beside (.fixed _)
  | «matches» candidates => exact framed_markupContent escaped _
  | error cause =>
    exact ((Framed.fixed _).untagged (framed_markupContent escaped _)).beside (.fixed _)

private theorem framed_typedParagraph (renderer : Renderer) (entry : Transcript) :
    Framed (skeleton headerTemplate) (renderer.typedParagraph entry) := by
  have path := (Framed.fixed "<p class=\"line\">").untagged (framed_escapeMarkup entry.promptPath)
  have prompt := (path.beside (.fixed "<span class=\"green\">")).untagged
    (framed_escapeMarkup renderer.prompt)
  have command := (prompt.beside (.fixed "</span> ")).untagged (framed_escapeMarkup entry.command)
  exact command.beside (.fixed "</p>")

private theorem markupHeader_eq (renderer : Renderer) (entry : Transcript) :
    renderer.markupHeader entry = renderer.typedParagraph entry ++ "\n" := by
  have line : "</p>\n" = "</p>" ++ "\n" := by decide
  unfold markupHeader
  rw [line]
  exact String.append_assoc.symm

theorem framed_renderMarkup (escaped : renderer.trust = .escaped) (entry : Transcript) :
    Framed (skeleton (entryTemplate entry.body.shape)) (renderer.renderMarkup entry) := by
  have line : Framed [] "\n" := ⟨by decide, entitiesOnly_of_notMem (by decide)⟩
  have typed := (framed_typedParagraph renderer entry).untagged line
  rw [← markupHeader_eq] at typed
  have answered := (typed.beside (.fixed "<p class=\"line\">")).beside (framed_markupBody escaped entry.body)
  exact answered.beside (.fixed _)

/-- The first paragraph ends where its template ends: no text inside of it can end it. -/
theorem firstParagraph_renderMarkup (renderer : Renderer) (entry : Transcript) :
    firstParagraph (renderer.renderMarkup entry) = renderer.typedParagraph entry := by
  have inside (text : String) (rest : List Char) :
      untilParagraphEnd ((escapeMarkup text).toList ++ rest) =
        (escapeMarkup text).toList ++ untilParagraphEnd rest :=
    untilParagraphEnd_append (notMem_escapeMarkup (by decide) text) rest
  have opened (rest : List Char) : untilParagraphEnd ("<p class=\"line\">".toList ++ rest) =
      "<p class=\"line\">".toList ++ untilParagraphEnd rest := rfl
  have coloured (rest : List Char) : untilParagraphEnd ("<span class=\"green\">".toList ++ rest) =
      "<span class=\"green\">".toList ++ untilParagraphEnd rest := rfl
  have uncoloured (rest : List Char) : untilParagraphEnd ("</span> ".toList ++ rest) =
      "</span> ".toList ++ untilParagraphEnd rest := rfl
  have closed (rest : List Char) : untilParagraphEnd ("</p>".toList ++ rest) = "</p>".toList := rfl
  apply String.toList_inj.mp
  unfold firstParagraph renderMarkup
  rw [String.toList_ofList, markupHeader_eq]
  unfold typedParagraph
  simp only [String.toList_append, List.append_assoc, inside, opened, coloured, uncoloured, closed]

/-- On a web page, the tags of an escaped entry are those of its shape's template, and every
ampersand begins an entity. Whatever is trusted, so are the tags and the ampersands of the first
paragraph, whose texts do not end it. -/
theorem markup_skeleton_of_entry (prompt : String) (entry : Transcript) :
    (let page := (⟨.html, .escaped, prompt⟩ : Renderer).render entry
     skeleton page = skeleton (entryTemplate entry.body.shape) ∧ EntitiesOnly page) ∧
    ∀ trust, let typed := firstParagraph ((⟨.html, trust, prompt⟩ : Renderer).render entry)
      skeleton typed = skeleton headerTemplate ∧ EntitiesOnly typed := by
  constructor
  · intro page
    let renderer : Renderer := ⟨.html, .escaped, prompt⟩
    have escaped : renderer.trust = .escaped := rfl
    have framed : Framed _ page := framed_renderMarkup escaped entry
    exact ⟨framed.skeleton_eq, framed.entitiesOnly⟩
  · intro trust typed
    let renderer : Renderer := ⟨.html, trust, prompt⟩
    have repeated : typed = renderer.typedParagraph entry := firstParagraph_renderMarkup renderer entry
    have framed := framed_typedParagraph renderer entry
    rw [repeated]
    exact ⟨framed.skeleton_eq, framed.entitiesOnly⟩

end Renderer
end TreeShell
