import TreeShell.Proofs.LoadedSettings
import TreeShell.Proofs.TextDocuments
import TreeShell.Proofs.VariableGuesses

/-! Texts that variables carry. A file gives a text as it is, and a variable gives what is guessed of it
and written out again, so only texts that are spelled like no switch and no number, or just as one is
written out, come through. -/

namespace TreeShell

open Setting Assignment

section Over

variable {lower upper others : List Layer} {field : Field α}

/-- Over the same layers, layers that say the same beside a field make settings that agree beside it. -/
theorem Setting.agreeBeside_append (keeps : ∀ layer ∈ upper, layer.KeepsPart field.part)
    (otherKeeps : ∀ layer ∈ others, layer.KeepsPart field.part)
    (parts : ∀ part ≠ field.part, upper.flatMap (fun layer => about [part.name] layer.assignments) =
      others.flatMap fun layer => about [part.name] layer.assignments)
    (names : ∀ name ≠ field.name,
      upper.flatMap (fun layer => about [field.part.name, name] layer.assignments) =
        others.flatMap fun layer => about [field.part.name, name] layer.assignments) :
    (ofLayers (lower ++ upper)).AgreeBeside field (ofLayers (lower ++ others)) where
  parts part apart := by rw [under_part_append, under_part_append, parts part apart]
  names name apart := by
    rw [under_name_append name keeps, under_name_append name otherKeeps, names name apart]

end Over

namespace Layer

/-- A layer in which the section of a field is a table and nothing is said about the field. -/
structure SilentOn (field : Field α) (layer : Layer) : Prop where
  keeps : layer.KeepsPart field.part
  silent : about field.path layer.assignments = []

private theorem silentOn_nil (field : Field α) : SilentOn field [] where
  keeps one said := by
    rw [show assignments [] = [] from rfl, about_nil] at said
    cases said
  silent := about_nil field.path

/-- A layer that gives a text for a field and for all else what another layer gives. -/
structure GivesText (field : Field α) (text : String) (own written : Layer) : Prop where
  ownKeeps : own.KeepsPart field.part
  keeps : written.KeepsPart field.part
  parts : ∀ part ≠ field.part,
    about [part.name] own.assignments = about [part.name] written.assignments
  names : ∀ name ≠ field.name,
    about [field.part.name, name] own.assignments = about [field.part.name, name] written.assignments
  gives : written.given? field.path = some (.text text)

private theorem assignments_append (first second : Layer) :
    assignments (first ++ second) = assignments first ++ assignments second :=
  List.map_append

section Variables

variable (field : Field α) (text : String) (before after : List (String × String))

/-- The variables of a field among others say what the others do, and what the one does. -/
theorem about_ofVariables (path : List String) :
    about path (ofVariables (before ++ (field.variableName, text) :: after)).assignments =
      about path (ofVariables before).assignments ++
        (about path [⟨field.path.map .member, ofVariable text⟩] ++
          about path (ofVariables after).assignments) := by
  have apart : ofVariables (before ++ (field.variableName, text) :: after) =
      ofVariables before ++ ([(field.key, ofVariable text)] ++ ofVariables after) := by
    rw [← field.ofVariables_variableName text]
    simp only [ofVariables, ← List.filterMap_append, List.singleton_append]
  have single : assignments [(field.key, ofVariable text)] =
      [⟨field.path.map .member, ofVariable text⟩] := by
    rw [← field.ofKey_key]
    rfl
  rw [apart, assignments_append, assignments_append, about_append, about_append, single]

theorem about_ofVariables_others (path : List String) :
    about path (ofVariables (before ++ after)).assignments =
      about path (ofVariables before).assignments ++ about path (ofVariables after).assignments := by
  rw [ofVariables, List.filterMap_append, assignments_append, about_append]
  rfl

variable {field before after}

theorem about_ofVariables_of_apart {path : List String} (outside : ¬field.path <+: path)
    (above : ¬path <+: field.path) :
    about path (ofVariables (before ++ (field.variableName, text) :: after)).assignments =
      about path (ofVariables (before ++ after)).assignments := by
  have nothing := about_eq_nil_of_apart [] (ofVariable text) field.lowercase_path outside above
  rw [List.append_nil] at nothing
  rw [about_ofVariables, nothing, List.nil_append, about_ofVariables_others]

private theorem about_ofVariables_self (silent : (ofVariables (before ++ after)).SilentOn field) :
    about field.path (ofVariables (before ++ (field.variableName, text) :: after)).assignments =
      [⟨[], ofVariable text⟩] := by
  have nothing := silent.silent
  rw [about_ofVariables_others, List.append_eq_nil_iff] at nothing
  have self : about field.path [⟨field.path.map .member, ofVariable text⟩] =
      [⟨[], ofVariable text⟩] := by
    have lower := field.lowercase_path field.name (by simp [Field.path])
    simp [Field.path, about, inside, lower]
  rw [about_ofVariables, nothing.1, nothing.2, self]
  rfl

theorem keepsPart_ofVariables (silent : (ofVariables (before ++ after)).SilentOn field) :
    (ofVariables (before ++ (field.variableName, text) :: after)).KeepsPart field.part := by
  have keeps := silent.keeps
  simp only [KeepsPart, about_ofVariables_others, List.forall_mem_append] at keeps
  have self : about [field.part.name] [⟨field.path.map .member, ofVariable text⟩] =
      [⟨[.member field.name], ofVariable text⟩] := by
    simp [Field.path, about, inside]
  simp only [KeepsPart, about_ofVariables, self, List.forall_mem_append]
  exact ⟨keeps.1, List.forall_mem_singleton.mpr trivial, keeps.2⟩

end Variables

end Layer

namespace Settings

section Runs

variable {field : Field α} {hold : String → α} {text : String} {before after : List (String × String)}
variable {lower : List Layer} {own written : Layer} {settings : Settings}

theorem agree_of_variable (silent : (Layer.ofVariables (before ++ after)).SilentOn field)
    (keeps : own.KeepsPart field.part) :
    (ofLayers (lower ++ [own, Layer.ofVariables (before ++ (field.variableName, text) :: after)])).AgreeBeside
      field (ofLayers (lower ++ [own, Layer.ofVariables (before ++ after)])) := by
  apply agreeBeside_append
  · exact Layer.keepsPart_pair keeps (Layer.keepsPart_ofVariables text silent)
  · exact Layer.keepsPart_pair keeps silent.keeps
  · intro part apart
    obtain ⟨outside, above⟩ := Field.apart_of_part apart
    simp only [List.flatMap_cons, List.flatMap_nil, Layer.about_ofVariables_of_apart text outside above]
  · intro name apart
    obtain ⟨outside, above⟩ := Field.apart_of_name apart
    simp only [List.flatMap_cons, List.flatMap_nil, Layer.about_ofVariables_of_apart text outside above]

theorem agree_of_file (given : Layer.GivesText field text own written)
    (silent : (Layer.ofVariables (before ++ after)).SilentOn field) :
    (ofLayers (lower ++ [written, Layer.ofVariables (before ++ after)])).AgreeBeside field
      (ofLayers (lower ++ [own, Layer.ofVariables (before ++ after)])) := by
  apply agreeBeside_append
  · exact Layer.keepsPart_pair given.keeps silent.keeps
  · exact Layer.keepsPart_pair given.ownKeeps silent.keeps
  · intro part apart
    simp only [List.flatMap_cons, given.parts part apart]
  · intro name apart
    simp only [List.flatMap_cons, given.names name apart]

theorem under_of_variable (lower : List Layer) (text : String)
    (silent : (Layer.ofVariables (before ++ after)).SilentOn field)
    (keeps : own.KeepsPart field.part) :
    (ofLayers (lower ++ [own, Layer.ofVariables (before ++ (field.variableName, text) :: after)])).under
      field.path = some (ofVariable text) := by
  have both := Layer.keepsPart_pair keeps (Layer.keepsPart_ofVariables text silent)
  rw [under_field_append field both, List.flatMap_cons, List.flatMap_singleton, applyAll_append,
    Layer.about_ofVariables_self text silent]
  exact congrArg some (merge_ofVariable _ text)

theorem under_of_file (lower : List Layer) (given : Layer.GivesText field text own written)
    (silent : (Layer.ofVariables (before ++ after)).SilentOn field) :
    (ofLayers (lower ++ [written, Layer.ofVariables (before ++ after)])).under field.path =
      some (.text text) := by
  have alone : applyAll (about field.path written.assignments) none = some (.text text) := by
    obtain ⟨single, _⟩ := Option.filter_eq_some_iff.mp given.gives
    have made := @under_field_append [] [written] _ field (List.forall_mem_singleton.mpr given.keeps)
    rw [List.flatMap_singleton] at made
    exact made.symm.trans single
  rw [under_field_append field (Layer.keepsPart_pair given.keeps silent.keeps), List.flatMap_cons,
    List.flatMap_singleton, applyAll_append, silent.silent, applyAll_nil]
  exact applyAll_eq_text alone _

section Reading

variable {other : Setting}

/-- Settings that are read of anything that agrees beside the field are read with the variable too. -/
theorem ofSetting?_of_variable (isText : field.ofText? = some hold)
    (silent : (Layer.ofVariables (before ++ after)).SilentOn field) (keeps : own.KeepsPart field.part)
    (table : other.IsTable) (inPart : ∃ members, other.under [field.part.name] = some (.table members))
    (agree : (ofLayers (lower ++ [own, Layer.ofVariables (before ++ after)])).AgreeBeside field other)
    (read : ofSetting? other = some settings) :
    ofSetting? (ofLayers (lower ++
      [own, Layer.ofVariables (before ++ (field.variableName, text) :: after)])) =
        some (field.put settings (hold (guessed text))) := by
  have stands := under_of_variable lower text silent keeps
  refine ofSetting?_put (isTable_ofLayers _) table ((agree_of_variable silent keeps).trans agree)
    (exists_part_table stands) inPart ?_ read
  rw [Field.readFrom, stands]
  exact Field.read_of_text? isText (text?_ofVariable text)

theorem ofSetting?_of_file (isText : field.ofText? = some hold)
    (given : Layer.GivesText field text own written)
    (silent : (Layer.ofVariables (before ++ after)).SilentOn field) (table : other.IsTable)
    (inPart : ∃ members, other.under [field.part.name] = some (.table members))
    (agree : (ofLayers (lower ++ [own, Layer.ofVariables (before ++ after)])).AgreeBeside field other)
    (read : ofSetting? other = some settings) :
    ofSetting? (ofLayers (lower ++ [written, Layer.ofVariables (before ++ after)])) =
      some (field.put settings (hold text)) := by
  have stands := under_of_file lower given silent
  refine ofSetting?_put (isTable_ofLayers _) table ((agree_of_file given silent).trans agree)
    (exists_part_table stands) inPart ?_ read
  rw [Field.readFrom, stands]
  exact Field.read_of_text? isText rfl

end Reading

/-- What is read with the file and what is read with the variable differ in the field only. -/
private theorem ofSetting?_of_variable_eq_map (isText : field.ofText? = some hold)
    (given : Layer.GivesText field text own written)
    (silent : (Layer.ofVariables (before ++ after)).SilentOn field) :
    ofSetting? (ofLayers (lower ++
      [own, Layer.ofVariables (before ++ (field.variableName, text) :: after)])) =
        (ofSetting? (ofLayers (lower ++ [written, Layer.ofVariables (before ++ after)]))).map
          fun settings => field.put settings (hold (guessed text)) := by
  have variableStands := under_of_variable lower text silent given.ownKeeps
  have fileStands := under_of_file lower given silent
  -- Each run is read once the other is, so none of them fails alone.
  cases withFile : ofSetting? (ofLayers (lower ++ [written, Layer.ofVariables (before ++ after)])) with
  | some settings =>
    exact ofSetting?_of_variable isText silent given.ownKeeps (isTable_ofLayers _)
      (exists_part_table fileStands) (agree_of_file given silent).symm withFile
  | none =>
    cases withVariable : ofSetting? (ofLayers (lower ++
        [own, Layer.ofVariables (before ++ (field.variableName, text) :: after)])) with
    | none => rfl
    | some settings =>
      have loaded := ofSetting?_of_file isText given silent (isTable_ofLayers _)
        (exists_part_table variableStands) (agree_of_variable silent given.ownKeeps).symm withVariable
      rw [withFile] at loaded
      cases loaded

theorem value_of_file (isText : field.ofText? = some hold)
    (given : Layer.GivesText field text own written)
    (silent : (Layer.ofVariables (before ++ after)).SilentOn field)
    (read : ofSetting? (ofLayers (lower ++ [written, Layer.ofVariables (before ++ after)])) =
      some settings) : field.value settings = hold text := by
  have again := ofSetting?_of_file isText given silent (isTable_ofLayers _)
    (exists_part_table (under_of_file _ given silent)) (agree_of_file given silent).symm read
  rw [read] at again
  rw [Option.some.inj again, Field.value_put]

/-- Settings that are read without either are read with each, if all layers below keep the section. -/
private theorem ofSetting?_of_neither {place : Layer} (isText : field.ofText? = some hold)
    (given : Layer.GivesText field text own written)
    (silent : (Layer.ofVariables (before ++ after)).SilentOn field) (keeps : place.KeepsPart field.part)
    (read : ofSetting? (ofLayers ([standard.toLayer, place] ++
      [own, Layer.ofVariables (before ++ after)])) = some settings) :
    ofSetting? (ofLayers ([standard.toLayer, place] ++
        [own, Layer.ofVariables (before ++ (field.variableName, text) :: after)])) =
          some (field.put settings (hold (guessed text))) ∧
      ofSetting? (ofLayers ([standard.toLayer, place] ++
        [written, Layer.ofVariables (before ++ after)])) = some (field.put settings (hold text)) := by
  have all : ∀ one ∈ stack [place, own, Layer.ofVariables (before ++ after)],
      one.KeepsPart field.part := by
    simp only [stack, List.forall_mem_cons]
    exact ⟨keepsTables_standard.keepsPart, keeps, given.ownKeeps, silent.keeps, List.forall_mem_nil _⟩
  have inPart := exists_part_stack all
  have table := isTable_ofLayers (stack [place, own, Layer.ofVariables (before ++ after)])
  constructor
  · exact ofSetting?_of_variable isText silent given.ownKeeps table inPart (.refl _) read
  · exact ofSetting?_of_file isText given silent table inPart (.refl _) read

variable {formats : List FileFormat} {disk : Disk}

theorem load?_eq_ofSetting? {environment : Environment} {explicit : Option DiskPath} {place : Layer}
    (fromPlace : globalLayer? formats disk environment = some place)
    (fromFile : explicitLayer? formats disk explicit = some own) :
    load? formats disk environment explicit = ofSetting? (ofLayers
      ([standard.toLayer, place] ++ [own, Layer.ofVariables environment.entries])) := by
  simp only [load?, fromPlace, fromFile, Option.bind_eq_bind, Option.bind_some]
  rfl

theorem load?_eq_none {environment : Environment} {explicit : Option DiskPath}
    (noPlace : globalLayer? formats disk environment = none) :
    load? formats disk environment explicit = none := by
  simp only [load?, noPlace, Option.bind_eq_bind, Option.bind_none]

private theorem globalLayer?_of_variable (formats : List FileFormat) (disk : Disk) (home : Option DiskPath) :
    globalLayer? formats disk ⟨before ++ (field.variableName, text) :: after, home⟩ =
      globalLayer? formats disk ⟨before ++ after, home⟩ := by
  have get (name : String) (differ : (name == field.variableName) = false) :
      Environment.get? ⟨before ++ (field.variableName, text) :: after, home⟩ name =
        Environment.get? ⟨before ++ after, home⟩ name := by
    rw [Environment.get?, Environment.get?, List.lookup_append, List.lookup_append, List.lookup_cons,
      differ]
  have place : ("XDG_CONFIG_HOME" == field.variableName) = false := by cases field <;> rfl
  have account : ("HOME" == field.variableName) = false := by cases field <;> rfl
  simp only [globalLayer?, Environment.configFile, Environment.configHome, Environment.filled?,
    get _ place, get _ account]

/-- A run with a text in a variable loads what the run with that text in a file loads, but for the
field: the file gives it the text itself, the variable what is guessed of the text. So they load the same
exactly if guessing keeps the text, as it keeps a plain one. What loads without either loads with
each. -/
theorem variable_text_is_guessed (isText : field.ofText? = some hold) {home : Option DiskPath} {explicit : Option DiskPath} {file : DiskPath}
    (fromOwn : explicitLayer? formats disk explicit = some own)
    (fromFile : explicitLayer? formats disk (some file) = some written)
    (given : Layer.GivesText field text own written)
    (silent : (Layer.ofVariables (before ++ after)).SilentOn field) :
    let others : Environment := ⟨before ++ after, home⟩
    let withVariable := load? formats disk ⟨before ++ (field.variableName, text) :: after, home⟩ explicit
    let withFile := load? formats disk others (some file)
    withVariable = withFile.map (fun settings => field.put settings (hold (guessed text))) ∧
    (∀ settings, withFile = some settings → field.value settings = hold text) ∧
    (withFile.isSome → (withVariable = withFile ↔ guessed text = text)) ∧
    (IsPlain text → withVariable = withFile) ∧
    ((∀ place, globalLayer? formats disk others = some place → place.KeepsPart field.part) →
      ∀ settings, load? formats disk others explicit = some settings →
        withVariable = some (field.put settings (hold (guessed text))) ∧
        withFile = some (field.put settings (hold text))) := by
  intro others withVariable withFile
  have samePlace : globalLayer? formats disk ⟨before ++ (field.variableName, text) :: after, home⟩ =
      globalLayer? formats disk others :=
    globalLayer?_of_variable formats disk home
  cases place : globalLayer? formats disk others with
  | none =>
    have noVariable : withVariable = none := load?_eq_none (samePlace.trans place)
    have noFile : withFile = none := load?_eq_none place
    have neither : load? formats disk others explicit = none := load?_eq_none place
    rw [noVariable, noFile, neither]
    refine ⟨rfl, ?_, ?_, fun _ => rfl, ?_⟩
    · intro settings loaded
      cases loaded
    · intro loads
      cases loads
    · intro keeps settings loaded
      cases loaded
  | some layer =>
    have ofVariable := load?_eq_ofSetting? (samePlace.trans place) fromOwn
    have ofFile : withFile = _ := load?_eq_ofSetting? place fromFile
    have ofNeither := load?_eq_ofSetting? place fromOwn
    have mapped : withVariable =
        withFile.map fun settings => field.put settings (hold (guessed text)) := by
      rw [ofFile]
      exact ofVariable.trans (ofSetting?_of_variable_eq_map isText given silent)
    have exact (settings : Settings) (loaded : withFile = some settings) :
        field.value settings = hold text :=
      value_of_file isText given silent (ofFile.symm.trans loaded)
    have kept (same : guessed text = text) : withVariable = withFile := by
      rw [mapped, same]
      cases loaded : withFile with
      | none => rfl
      | some settings => rw [Option.map_some, ← exact settings loaded, Field.put_value]
    refine ⟨mapped, exact, ?_, fun plain => kept (guessed_of_plain plain), ?_⟩
    · intro loads
      obtain ⟨settings, loaded⟩ := Option.isSome_iff_exists.mp loads
      refine ⟨fun same => ?_, kept⟩
      rw [mapped, loaded, Option.map_some, Option.some.injEq] at same
      have values := congrArg (fun settings => field.value settings) same
      simp only [Field.value_put, exact settings loaded] at values
      exact Field.hold_injective isText values
    · intro keeps settings loaded
      obtain ⟨variableLoads, fileLoads⟩ :=
        ofSetting?_of_neither isText given silent (keeps layer rfl) (ofNeither.symm.trans loaded)
      exact ⟨ofVariable.trans variableLoads, ofFile.trans fileLoads⟩

end Runs

end Settings

namespace Layer

variable {formats : List FileFormat} {disk : Disk} {path : DiskPath} {format : FileFormat}

private theorem mem_of_fileOf? {file : DiskPath} (found : fileOf? formats disk path = some (format, file)) :
    format ∈ formats := by
  unfold fileOf? at found
  split at found
  · cases found
  · split at found
    · obtain ⟨own, isOwn, same⟩ := Option.map_eq_some_iff.mp found
      cases same
      exact List.mem_of_find?_eq_some isOwn
    · obtain ⟨own, member, isOwn⟩ := List.exists_of_findSome?_eq_some found
      dsimp only at isOwn
      split at isOwn
      · cases isOwn
        exact member
      · cases isOwn

private theorem mem_of_textOf? {text : String} (found : textOf? formats disk path = some (format, text)) :
    format ∈ formats := by
  obtain ⟨⟨own, file⟩, isOwn, read⟩ := Option.bind_eq_some_iff.mp found
  obtain ⟨_, _, same⟩ := Option.map_eq_some_iff.mp read
  cases same
  exact mem_of_fileOf? isOwn

end Layer

def Field.document (field : Field α) (text : String) : String :=
  String.ofList (Toml.textDocument field.part.name.toList field.name.toList text.toList)

def Field.layer (field : Field α) (text : String) : Layer :=
  [(field.part.name, .table [(field.name, .text text)])]

theorem Field.ofDocument?_document (field : Field α) (text : String) :
    Layer.ofDocument? (field.document text) = some (field.layer text) := by
  have partBare : field.part.name.toList.all Toml.isBare = true := by cases field <;> decide
  have partFilled : field.part.name.toList ≠ [] := by cases field <;> decide
  have bare : field.name.toList.all Toml.isBare = true := by cases field <;> decide
  have filled : field.name.toList ≠ [] := by cases field <;> decide
  have partNamed : (field.part.name == Setting.momentName) = false := by cases field <;> decide
  have named : (field.name == Setting.momentName) = false := by cases field <;> decide
  have read := Toml.ofDocument?_textDocument partBare partFilled bare filled text.toList
  simp only [String.ofList_toList] at read
  simp only [Layer.ofDocument?, Field.document, read, Option.bind_some, ofTomlTable?, ofToml?,
    ofTomlMembers?, partNamed, named]
  rfl

private theorem Field.givesText_layer (field : Field α) (text : String) :
    Layer.GivesText field text [] (field.layer text) := by
  have assigned : (field.layer text).assignments =
      [⟨[.member field.part.name], .table [(field.name, .text text)]⟩] := by
    cases field <;> rfl
  have lowerPart := field.lowercase_path field.part.name (by simp [Field.path])
  have lower := field.lowercase_path field.name (by simp [Field.path])
  have nothing (path : List String) : about path (Layer.assignments []) = [] := about_nil path
  constructor
  · intro one said
    rw [nothing] at said
    cases said
  · intro one said
    simp only [assigned, about, List.flatMap_singleton, inside, lowerPart, if_true,
      List.mem_singleton] at said
    rw [said]
    exact trivial
  · intro part apart
    have differ : field.part.name ≠ part.name := by
      intro same
      exact (Field.apart_of_part apart).2 (by simp [Field.path, same])
    rw [nothing]
    simp [assigned, about, inside, lowerPart, differ]
  · intro name apart
    rw [nothing]
    simp [assigned, about, inside, lowerPart, lower, Ne.symm apart]
  · cases field <;> rfl

namespace Settings

/-- A disk with a file that sets the prompt to digits with zeros before them. -/
def zerosDisk : Disk :=
  ⟨.directory [("t.toml", .file (Text.Utf8.encode (Field.prompt.document "007")) 0o644)], []⟩

/-- The file keeps the zeros of a text, and the variable loses them. -/
theorem prompt_loses_zeros :
    load? [.toml] zerosDisk ⟨[("HOME", "hh"), ("TERMFOLIO__SHELL__PROMPT", "007")], none⟩ none =
        some { standard with shell := { ShellSettings.standard with prompt := "7" } } ∧
      load? [.toml] zerosDisk ⟨[("HOME", "hh")], none⟩ (some "t.toml") =
        some { standard with shell := { ShellSettings.standard with prompt := "007" } } := by
  decide +kernel

/-- So the two runs differ. -/
theorem prompt_with_zeros_is_guessed :
    let withVariable :=
      load? [.toml] zerosDisk ⟨[("HOME", "hh"), (Field.prompt.variableName, "007")], none⟩ none
    let withFile := load? [.toml] zerosDisk ⟨[("HOME", "hh")], none⟩ (some "t.toml")
    explicitLayer? [.toml] zerosDisk (some "t.toml") = some (Field.prompt.layer "007") ∧
    Layer.GivesText .prompt "007" [] (Field.prompt.layer "007") ∧
    (Layer.ofVariables [("HOME", "hh")]).SilentOn .prompt ∧ withFile.isSome ∧
    withVariable = withFile.map (fun settings => Field.prompt.put settings (guessed "007")) ∧
    withVariable ≠ withFile := by
  have fromFile : explicitLayer? [.toml] zerosDisk (some "t.toml") =
      some (Field.prompt.layer "007") := by
    have texts : (Layer.textOf? [.toml] zerosDisk "t.toml").map Prod.snd =
        some (Field.prompt.document "007") := by decide +kernel
    obtain ⟨⟨format, text⟩, found, same⟩ := Option.map_eq_some_iff.mp texts
    obtain rfl : text = Field.prompt.document "007" := same
    obtain rfl : format = .toml := List.mem_singleton.mp (Layer.mem_of_textOf? found)
    rw [explicitLayer?, found, Option.bind_some]
    dsimp only
    rw [FileFormat.layer?_toml, Field.ofDocument?_document]
  have silent : (Layer.ofVariables [("HOME", "hh")]).SilentOn .prompt := Layer.silentOn_nil .prompt
  have given := Field.prompt.givesText_layer "007"
  have loads : (load? [.toml] zerosDisk ⟨[("HOME", "hh")], none⟩ (some "t.toml")).isSome := by decide +kernel
  obtain ⟨mapped, _, same, _⟩ := @variable_text_is_guessed String .prompt id "007" [("HOME", "hh")] [] []
    (Field.prompt.layer "007") [.toml] zerosDisk rfl none none "t.toml" rfl fromFile given silent
  refine ⟨fromFile, given, silent, loads, mapped, fun equal => ?_⟩
  exact absurd ((same loads).mp equal) (by decide)

end Settings
end TreeShell
