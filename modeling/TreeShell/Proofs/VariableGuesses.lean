import TreeShell.Proofs.SettingAssignments
import TreeShell.Proofs.SettingFields

/-! What is taken for the text of a variable. It is a switch or a number first if it is spelled like one,
and written out again where a text is wanted. -/

namespace TreeShell

open Setting

namespace Setting

/-- The text that becomes of one that a variable carries. -/
def guessed (text : String) : String :=
  (ofVariable text).text?.getD text

theorem ofVariable_cases (text : String) :
    (∃ value, ofVariable text = .bool value) ∨ (∃ value, ofVariable text = .integer value) ∨
      (∃ value, ofVariable text = .float value) ∨ ofVariable text = .text text := by
  unfold ofVariable
  split
  · exact .inl ⟨true, rfl⟩
  · exact .inl ⟨false, rfl⟩
  · split
    · exact .inr (.inl ⟨_, rfl⟩)
    · split
      · exact .inr (.inr (.inl ⟨_, rfl⟩))
      · exact .inr (.inr (.inr rfl))

theorem text?_ofVariable (text : String) : (ofVariable text).text? = some (guessed text) := by
  rw [guessed]
  rcases ofVariable_cases text with ⟨value, made⟩ | ⟨value, made⟩ | ⟨value, made⟩ | made
  all_goals
    rw [made]
    rfl

theorem merge_ofVariable (present : Option Setting) (text : String) :
    merge present (ofVariable text) = ofVariable text := by
  rcases ofVariable_cases text with ⟨value, made⟩ | ⟨value, made⟩ | ⟨value, made⟩ | made
  all_goals
    rw [made]
    rfl

/-- A text that starts like no number and names neither a number nor a switch. -/
structure IsPlain (text : String) : Prop where
  word : Text.lowercase text ∉ ["true", "false"]
  unnamed : String.ofList (text.toList.map Char.toLower) ∉ ["inf", "infinity", "nan"]
  starts : ∀ first ∈ text.toList.head?, Digits.digit? first = none ∧ first ∉ ['-', '+', '.']

section Plain

variable {characters : List Char}

private theorem integer?_eq_none (starts : ∀ first ∈ characters.head?,
    Digits.digit? first = none ∧ first ∉ ['-', '+', '.']) : Digits.integer? characters = none := by
  cases characters with
  | nil => rfl
  | cons first rest =>
    obtain ⟨noDigit, noMark⟩ := starts first rfl
    simp only [List.mem_cons, List.not_mem_nil, or_false, not_or] at noMark
    have natural : Digits.natural? (first :: rest) = none := by
      simp [Digits.natural?, noDigit]
    unfold Digits.integer?
    split <;> simp_all

private theorem ofText?_eq_none (unnamed : String.ofList (characters.map Char.toLower) ∉ ["inf", "infinity", "nan"])
    (starts : ∀ first ∈ characters.head?, Digits.digit? first = none ∧ first ∉ ['-', '+', '.']) :
    Double.ofText? characters = none := by
  have noName : Double.named? false characters = none := by
    unfold Double.named?
    split <;> simp_all
  cases characters with
  | nil => rfl
  | cons first rest =>
    obtain ⟨noDigit, noMark⟩ := starts first rfl
    simp only [List.mem_cons, List.not_mem_nil, or_false, not_or] at noMark
    have noDigits : Double.unsigned? false (first :: rest) = none := by
      have leads : Digits.leading (first :: rest) = [] := by simp [Digits.leading, noDigit]
      have stays : Digits.after (first :: rest) = first :: rest := by simp [Digits.after, noDigit]
      simp [Double.unsigned?, leads, stays, noMark]
    unfold Double.ofText?
    split
    simp_all

end Plain

theorem guessed_of_plain {text : String} (isPlain : IsPlain text) : guessed text = text := by
  have noInteger := integer?_eq_none isPlain.starts
  have noNumber := ofText?_eq_none isPlain.unnamed isPlain.starts
  have word := isPlain.word
  simp only [List.mem_cons, List.not_mem_nil, or_false, not_or] at word
  have plain : ofVariable text = .text text := by
    unfold ofVariable
    rw [noInteger, noNumber]
    split <;> simp_all
  rw [guessed, plain]
  rfl

end Setting

namespace Field

def variableName : Field α → String
  | .treeFile => "TERMFOLIO__TREE__FILE"
  | .treeUrl => "TERMFOLIO__TREE__URL"
  | .sourceDirectory => "TERMFOLIO__TREE__SOURCE_DIR"
  | .timeoutSeconds => "TERMFOLIO__TREE__TIMEOUT_SECS"
  | .prompt => "TERMFOLIO__SHELL__PROMPT"
  | .render => "TERMFOLIO__SHELL__RENDER"
  | .contentTrust => "TERMFOLIO__SHELL__CONTENT_TRUST"
  | .followLinks => "TERMFOLIO__BUILDER__FOLLOW_SYMLINKS"
  | .ignore => "TERMFOLIO__BUILDER__IGNORE"
  | .maxDepth => "TERMFOLIO__BUILDER__MAX_DEPTH"
  | .loggingEnabled => "TERMFOLIO__LOGGING__ENABLED"
  | .logLevel => "TERMFOLIO__LOGGING__LEVEL"
  | .logFormat => "TERMFOLIO__LOGGING__FORMAT"
  | .logOutput => "TERMFOLIO__LOGGING__OUTPUT"
  | .logFile => "TERMFOLIO__LOGGING__FILE"
  | .logColor => "TERMFOLIO__LOGGING__COLOR"

def ofText? : Field α → Option (String → α)
  | .treeFile | .treeUrl | .sourceDirectory | .logFile => some some
  | .prompt | .logLevel | .logFormat | .logOutput => some id
  | _ => none

def key (field : Field α) : String :=
  field.part.name ++ "." ++ field.name

private theorem key_of_variableName (field : Field α) :
    let name := (Text.lowercase field.variableName).toList
    Layer.variableMark.toList.isPrefixOf name = true ∧
      String.ofList (Layer.withPoints (name.drop Layer.variableMark.length)) = field.key := by
  cases field <;> decide +kernel

theorem ofVariables_variableName (field : Field α) (text : String) :
    Layer.ofVariables [(field.variableName, text)] = [(field.key, ofVariable text)] := by
  obtain ⟨marked, spelled⟩ := field.key_of_variableName
  simp only [Layer.ofVariables, List.filterMap_cons, List.filterMap_nil, marked, if_true, spelled]

theorem ofKey_key (field : Field α) : KeyStep.ofKey field.key = field.path.map .member := by
  cases field <;> rfl

theorem read_of_text? {field : Field α} {hold : String → α} (isText : field.ofText? = some hold)
    {setting : Setting} {text : String} (reads : setting.text? = some text) :
    field.read setting = some (hold text) := by
  have optional : optional? text? setting = some (some text) := by
    cases setting with
    | absent => cases reads
    | _ => simp only [optional?, reads, Option.map_some]
  cases field with
  | treeFile | treeUrl | sourceDirectory | logFile =>
    cases isText
    exact optional
  | prompt | logLevel | logFormat | logOutput =>
    cases isText
    exact reads
  | _ => cases isText

theorem hold_injective {field : Field α} {hold : String → α} (isText : field.ofText? = some hold) :
    Function.Injective hold := by
  intro first second same
  cases field with
  | treeFile | treeUrl | sourceDirectory | logFile =>
    cases isText
    exact Option.some.inj same
  | prompt | logLevel | logFormat | logOutput =>
    cases isText
    exact same
  | _ => cases isText

end Field

end TreeShell
