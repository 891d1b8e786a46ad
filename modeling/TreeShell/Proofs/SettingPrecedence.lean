import TreeShell.Proofs.SettingLeaves

/-! Which layer a setting comes from. Each field, and the level of each module, is what the highest
layer gives that gives something for it, whatever the layers give for others. A list is replaced as a
whole, except by keys that name single items of it. -/

namespace TreeShell

open Setting Assignment

namespace Field

private theorem readsNames (field : Field α) : ReadsNames field.read := by
  have choices {β : Type} (all : List β) (name : β → String) : ReadsNames (choice? all name) := by
    intro members result reads
    match members, reads with
    | [(given, inner)], reads => exact ⟨given, inner, rfl, fun _ => reads⟩
  intro members result reads
  cases field with
  | render => exact choices _ _ members result reads
  | contentTrust => exact choices _ _ members result reads
  | _ => cases reads

private theorem read_list {field : Field α} (single : field.path ≠ ignore.path) (items : List Setting) :
    field.read (.list items) = none := by
  cases field with
  | ignore => exact absurd rfl single
  | _ => rfl

end Field

namespace Setting

private theorem lookup_of_textMap? {members : List (String × Setting)} {texts : List (String × String)}
    (reads : textMap? (.table members) = some texts) (name : String) :
    (members.lookup name = none ∧ texts.lookup name = none) ∨
      ∃ made text, members.lookup name = some made ∧ made.text? = some text ∧
        texts.lookup name = some text := by
  simp only [textMap?] at reads
  induction members generalizing texts with
  | nil =>
    cases reads
    exact .inl ⟨rfl, rfl⟩
  | cons member rest ih =>
    obtain ⟨key, value⟩ := member
    simp only [List.mapM_cons, Option.bind_eq_bind, Option.bind_eq_some_iff, Option.map_eq_some_iff,
      Option.pure_def, Option.some.injEq] at reads
    obtain ⟨_, ⟨text, isText, rfl⟩, others, readRest, rfl⟩ := reads
    rw [List.lookup_cons, List.lookup_cons]
    cases name == key with
    | true => exact .inr ⟨value, text, rfl, isText, rfl⟩
    | false => exact ih readRest

private theorem readsNames_text? : ReadsNames text? := fun _ _ reads => nomatch reads

private theorem lookup_of_levels? {setting : Setting} {levels : List (String × String)}
    (reads : setting.levels? = some levels) (name : String) :
    (setting.under ["logging", "modules", name] = none ∧ levels.lookup name = none) ∨
      ∃ made text, setting.under ["logging", "modules", name] = some made ∧
        made.text? = some text ∧ levels.lookup name = some text := by
  have below : setting.under ["logging", "modules", name] =
      (setting.under ["logging", "modules"]).bind (·.members.lookup name) := by
    rw [show ["logging", "modules", name] = ["logging", "modules"] ++ [name] from rfl, under_append]
    exact congrArg _ (funext fun setting => under_single setting name)
  rw [below]
  rw [levels?] at reads
  cases stands : setting.under ["logging", "modules"] with
  | none =>
    rw [stands] at reads
    cases reads
    exact .inl ⟨rfl, rfl⟩
  | some given =>
    rw [stands] at reads
    cases given with
    | table members => exact lookup_of_textMap? reads name
    | _ => cases reads

private theorem lookup_levels_congr {one other : Setting} {levels otherLevels : List (String × String)}
    (reads : one.levels? = some levels) (otherReads : other.levels? = some otherLevels) {name : String}
    (same : one.under ["logging", "modules", name] = other.under ["logging", "modules", name]) :
    levels.lookup name = otherLevels.lookup name := by
  rcases lookup_of_levels? reads name with ⟨nothing, missing⟩ | ⟨made, text, found, isText, level⟩
  · rcases lookup_of_levels? otherReads name with ⟨_, otherMissing⟩ | ⟨other, _, otherFound, _, _⟩
    · rw [missing, otherMissing]
    · rw [← same, nothing] at otherFound
      cases otherFound
  · rcases lookup_of_levels? otherReads name with
      ⟨nothing, _⟩ | ⟨other, _, otherFound, otherText, otherLevel⟩
    · rw [← same, found] at nothing
      cases nothing
    · rw [← same, found] at otherFound
      cases otherFound
      rw [level, otherLevel, ← isText, otherText]

private theorem throughTables_level (name : String) : ThroughTables ["logging", "modules", name] :=
  throughTables_snoc name (by simp [Settings.tables]) throughTables_levels

end Setting

/-- What is said of a list: a value for the whole of it, or for one item. -/
inductive ListChange where
  | whole (value : Setting) (single : ¬value.IsTable)
  | item (index : Int) (value : Setting)

namespace ListChange

def assignment : ListChange → Assignment
  | .whole value _ => ⟨[], value⟩
  | .item index value => ⟨[.item index], value⟩

/-- A value for the whole takes the place of what is there, and an item is put at its index. -/
def change (present : Setting) : ListChange → Setting
  | .whole value _ => value
  | .item index value => .list (changeItem (fun _ => value) index present.items)

private theorem apply_assignment (change : ListChange) (present : Option Setting) :
    change.assignment.apply present = change.change (present.getD .absent) := by
  cases change with
  | item => rfl
  | whole value single =>
    cases value with
    | table => exact absurd trivial single
    | _ => rfl

private theorem applyAll_assignments {changes : List ListChange} (some : changes ≠ [])
    (present : Option Setting) : applyAll (changes.map assignment) present =
      Option.some (changes.foldl change (present.getD .absent)) := by
  induction changes generalizing present with
  | nil => exact absurd rfl some
  | cons first rest ih =>
    rw [List.map_cons, applyAll_cons, apply_assignment]
    cases rest with
    | nil => rfl
    | cons => exact ih (List.cons_ne_nil _ _) _

end ListChange

namespace Settings

/-- Settings that are made of layers leaf by leaf. -/
structure MadeOf (layers : List Layer) (settings : Settings) : Prop where
  /-- The highest layer that gives something for a field gives its value. A list is taken as a whole
  unless that layer has keys for single items of it. -/
  fields : ∀ {α : Type} (field : Field α), ∃ layer given,
    Layer.highest? field.path layers = some (layer, given) ∧
      ((layer.NamesItems field.path → field.path ≠ Field.ignore.path) →
        field.read given = some (field.value settings))
  /-- So does the highest layer that gives something for a module. -/
  levels : ∀ name, settings.logging.modules.lookup name =
    (Layer.highest? ["logging", "modules", name] layers).bind fun (_, given) => given.text?
  /-- In any case that layer makes the list, by all that it says of it in turn, of the list that the
  layers below make: values for the whole take its place, and items are put at their indices. -/
  items : ∀ lower layer upper, layers = lower ++ layer :: upper →
    (∀ one ∈ upper, one.given? Field.ignore.path = none) →
    (applyAll (about Field.ignore.path layer.assignments)
      ((ofLayers lower).under Field.ignore.path)).bind texts? = some settings.builder.ignore ∧
    ∀ changes, changes ≠ [] →
      about Field.ignore.path layer.assignments = changes.map ListChange.assignment →
      texts? (changes.foldl ListChange.change
        (((ofLayers lower).under Field.ignore.path).getD .absent)) = some settings.builder.ignore

variable {layers : List Layer} {settings : Settings}

private theorem lookup_levels (tables : ∀ layer ∈ stack layers, layer.KeepsTables)
    (reads : (ofLayers (stack layers)).levels? = some settings.logging.modules) (name : String) :
    settings.logging.modules.lookup name =
      (Layer.highest? ["logging", "modules", name] (stack layers)).bind fun (_, given) =>
        given.text? := by
  have filled : ["logging", "modules", name] ≠ [] := List.cons_ne_nil _ _
  have through := throughTables_level name
  rcases lookup_of_levels? reads name with ⟨nothing, missing⟩ | ⟨made, text, stands, isText, level⟩
  · rw [highest?_eq_none filled through tables nothing, missing]
    rfl
  · obtain ⟨layer, given, highest, read⟩ :=
      read_highest readsNames_text? filled through tables stands isText
    rw [level, highest]
    exact (read fun _ _ => rfl).symm

private theorem exists_stack_of_parted {lower upper : List Layer} {layer : Layer}
    (parted : stack layers = lower ++ layer :: upper) :
    ∃ inner, lower ++ [layer] = stack inner ∧ inner ⊆ layers := by
  cases lower with
  | nil =>
    obtain ⟨rfl, _⟩ := List.cons_eq_cons.mp parted
    exact ⟨[], rfl, List.nil_subset _⟩
  | cons first rest =>
    obtain ⟨rfl, same⟩ := List.cons_eq_cons.mp parted
    refine ⟨rest ++ [layer], rfl, ?_⟩
    rw [same]
    exact List.append_subset.mpr ⟨List.subset_append_left _ _, by simp⟩

/-- What stands for the list is made by the highest layer that gives something for it. -/
private theorem under_ignore_of_parted (tables : ∀ layer ∈ layers, layer.KeepsTables)
    {lower upper : List Layer} {layer : Layer} (parted : stack layers = lower ++ layer :: upper)
    (silent : ∀ one ∈ upper, one.given? Field.ignore.path = none) :
    (ofLayers (stack layers)).under Field.ignore.path =
      applyAll (about Field.ignore.path layer.assignments)
        ((ofLayers lower).under Field.ignore.path) := by
  have filled := Field.ignore.path_ne_nil
  have through := Field.ignore.throughTables
  have split : stack layers = (lower ++ [layer]) ++ upper := by rw [parted, List.append_cons]
  have all := keepsTables_stack tables
  rw [split] at all ⊢
  obtain ⟨inner, own, among⟩ := exists_stack_of_parted parted
  obtain ⟨made, stands, _⟩ := exists_under_stack (fun one member => tables one (among member)) Field.ignore
  rw [← own] at stands
  rw [under_append_of_all_silent filled through all silent (Option.isSome_of_eq_some stands),
    under_ofLayers filled through (List.forall_mem_append.mp all).1, List.flatMap_append,
    List.flatMap_singleton, applyAll_append, ← under_ofLayers filled through
      (List.forall_mem_append.mp (List.forall_mem_append.mp all).1).1]

theorem madeOf_stack (tables : ∀ layer ∈ layers, layer.KeepsTables)
    (fields : ∀ {α : Type} (field : Field α),
      field.readFrom (ofLayers (stack layers)) = some (field.value settings))
    (levels : (ofLayers (stack layers)).levels? = some settings.logging.modules) :
    settings.MadeOf (stack layers) where
  fields field := by
    obtain ⟨made, stands, reads⟩ := exists_under_stack tables field
    rw [fields field] at reads
    obtain ⟨layer, given, highest, read⟩ := read_highest field.readsNames field.path_ne_nil
      field.throughTables (keepsTables_stack tables) stands reads.symm
    exact ⟨layer, given, highest, fun whole =>
      read fun named => Field.read_list (whole named)⟩
  levels := lookup_levels (keepsTables_stack tables) levels
  items lower layer upper parted silent := by
    obtain ⟨made, stands, reads⟩ := exists_under_stack tables Field.ignore
    rw [fields .ignore] at reads
    rw [under_ignore_of_parted tables parted silent] at stands
    refine ⟨by rw [stands]; exact reads.symm, fun changes some said => ?_⟩
    rw [said, ListChange.applyAll_assignments some] at stands
    rw [Option.some.inj stands]
    exact reads.symm

theorem under_eq_of_sayTheSame {path : List String} (filled : path ≠ []) (through : ThroughTables path)
    {others : List Layer} (tables : ∀ layer ∈ layers, layer.KeepsTables)
    (otherTables : ∀ layer ∈ others, layer.KeepsTables) (same : Layer.SayTheSame path layers others) :
    (ofLayers (stack layers)).under path = (ofLayers (stack others)).under path := by
  have said (layers : List Layer) : layers.flatMap (fun layer => about path layer.assignments) =
      (layers.map fun layer => about path layer.assignments).flatten := List.flatMap_def
  rw [under_ofLayers filled through (keepsTables_stack tables),
    under_ofLayers filled through (keepsTables_stack otherTables), stack, stack, List.flatMap_cons,
    List.flatMap_cons, said layers, said others, same]

theorem value_of_sayTheSame {others : List Layer} {otherSettings : Settings}
    (tables : ∀ layer ∈ layers, layer.KeepsTables) (otherTables : ∀ layer ∈ others, layer.KeepsTables)
    {field : Field α} (reads : field.readFrom (ofLayers (stack layers)) = some (field.value settings))
    (otherReads : field.readFrom (ofLayers (stack others)) = some (field.value otherSettings))
    (same : Layer.SayTheSame field.path layers others) :
    field.value settings = field.value otherSettings := by
  have stands := under_eq_of_sayTheSame field.path_ne_nil field.throughTables tables otherTables same
  rw [Field.readFrom, stands, ← Field.readFrom, otherReads] at reads
  exact (Option.some.inj reads).symm

section Loading

variable {formats : List FileFormat} {disk : Disk} {environment : Environment}
  {explicit : Option DiskPath}

/-- Settings are made of the layers leaf by leaf: the highest layer that sets one gives its value.
In any other run whose layers say the same for a leaf, that leaf is the same, so setting one leaf in
one layer changes no other. -/
theorem loaded_leaf_by_leaf (stacked : upperLayers? formats disk environment explicit = some layers)
    (tables : ∀ layer ∈ layers, layer.KeepsTables)
    (loaded : load? formats disk environment explicit = some settings) :
    settings.MadeOf (stack layers) ∧
      ∀ (otherDisk : Disk) (otherEnvironment : Environment) (otherExplicit : Option DiskPath)
        (others : List Layer) (otherSettings : Settings),
        upperLayers? formats otherDisk otherEnvironment otherExplicit = some others →
        (∀ layer ∈ others, layer.KeepsTables) →
        load? formats otherDisk otherEnvironment otherExplicit = some otherSettings →
          (∀ {α : Type} (field : Field α), Layer.SayTheSame field.path layers others →
            field.value settings = field.value otherSettings) ∧
          (∀ name, Layer.SayTheSame ["logging", "modules", name] layers others →
            settings.logging.modules.lookup name = otherSettings.logging.modules.lookup name) ∧
          ∀ leaf lower one other upper, IsLeaf leaf → (∀ name ∈ leaf, Text.lowercase name = name) →
            layers = lower ++ one :: upper → others = lower ++ other :: upper →
            Layer.DifferAt leaf one other →
            (∀ {α : Type} (field : Field α), field.path ≠ leaf →
              field.value settings = field.value otherSettings) ∧
            ∀ name, ["logging", "modules", name] ≠ leaf →
              settings.logging.modules.lookup name = otherSettings.logging.modules.lookup name := by
  obtain ⟨fields, levels⟩ := (load?_eq_some_iff stacked tables).mp loaded
  refine ⟨madeOf_stack tables fields levels, fun otherDisk otherEnvironment otherExplicit others
    otherSettings otherStacked otherTables otherLoaded => ?_⟩
  obtain ⟨otherFields, otherLevels⟩ := (load?_eq_some_iff otherStacked otherTables).mp otherLoaded
  have sameField {α : Type} (field : Field α) (same : Layer.SayTheSame field.path layers others) :
      field.value settings = field.value otherSettings :=
    value_of_sayTheSame tables otherTables (fields field) (otherFields field) same
  have sameLevel (name : String) (same : Layer.SayTheSame ["logging", "modules", name] layers others) :
      settings.logging.modules.lookup name = otherSettings.logging.modules.lookup name :=
    lookup_levels_congr levels otherLevels
      (under_eq_of_sayTheSame (List.cons_ne_nil _ _) (throughTables_level name) tables otherTables same)
  refine ⟨sameField, sameLevel, ?_⟩
  rintro leaf lower one other upper isLeaf lowercase rfl rfl differ
  constructor
  · intro α field apart
    exact sameField field (Layer.sayTheSame_of_differAt differ isLeaf lowercase (.field field) apart)
  · intro name apart
    exact sameLevel name (Layer.sayTheSame_of_differAt differ isLeaf lowercase (.level name) apart)

end Loading

/-- A disk with a file of settings for a list, then for its first item, for the prompt and for a
module. -/
def listDisk : Disk :=
  ⟨.directory [("t.toml", .file (Text.Utf8.encode ("\"builder.ignore\" = [\"a\", \"c\"]\n" ++
    "\"builder.ignore[0]\" = \"b\"\n\n[shell]\nprompt = \">\"\n\n" ++
    "[logging.modules]\nnet = \"debug\"\n")) 0o644)], []⟩

/-- The prompt of the variable, the list and the module of the file, and all else as it is by itself.
Without the variable the prompt is another and all else is the same. -/
theorem leaves_over_listDisk :
    let settings : Settings :=
      { standard with
        shell := { ShellSettings.standard with prompt := "%" }
        builder := { WalkRules.standard with ignore := ["b", "c"] }
        logging := { LoggingSettings.standard with modules := [("net", "debug")] } }
    let others : Settings := { settings with shell := { ShellSettings.standard with prompt := ">" } }
    let environment : Environment := ⟨[("HOME", "hh"), ("TERMFOLIO__SHELL__PROMPT", "%")], none⟩
    load? [.toml] listDisk environment (some "t.toml") = some settings ∧
      load? [.toml] listDisk ⟨[("HOME", "hh")], none⟩ (some "t.toml") = some others ∧
      (∃ layers, upperLayers? [.toml] listDisk environment (some "t.toml") = some layers ∧
        (∀ layer ∈ layers, layer.KeepsTables) ∧ settings.MadeOf (stack layers)) ∧
      ∀ {α : Type} (field : Field α), field.path ≠ Field.prompt.path →
        field.value settings = field.value others := by
  intro settings others environment
  have loaded : load? [.toml] listDisk environment (some "t.toml") = some settings := by
    decide +kernel
  have otherLoaded : load? [.toml] listDisk ⟨[("HOME", "hh")], none⟩ (some "t.toml") = some others := by
    decide +kernel
  have kept : (explicitLayer? [.toml] listDisk (some "t.toml")).any fun layer =>
      decide layer.KeepsTables := by decide +kernel
  obtain ⟨layer, read, decided⟩ := (Option.any_eq_true _ _).mp kept
  have keeps : layer.KeepsTables := of_decide_eq_true decided
  have stacked (entries : List (String × String)) (place : globalLayer? [.toml] listDisk ⟨entries, none⟩ =
      some []) : upperLayers? [.toml] listDisk ⟨entries, none⟩ (some "t.toml") =
        some [[], layer, Layer.ofVariables entries] := by
    rw [upperLayers?, place, read]
    rfl
  have tables (entries : List (String × String)) (last : (Layer.ofVariables entries).KeepsTables) :
      ∀ one ∈ [[], layer, Layer.ofVariables entries], Layer.KeepsTables one :=
    List.forall_mem_cons.mpr ⟨by decide, List.forall_mem_cons.mpr ⟨keeps, List.forall_mem_singleton.mpr last⟩⟩
  have withVariable := tables [("HOME", "hh"), ("TERMFOLIO__SHELL__PROMPT", "%")] (by decide)
  obtain ⟨made, same⟩ := loaded_leaf_by_leaf (stacked _ rfl) withVariable loaded
  refine ⟨loaded, otherLoaded, ⟨_, stacked _ rfl, withVariable, made⟩, ?_⟩
  have differ : Layer.DifferAt Field.prompt.path
      (Layer.ofVariables [("HOME", "hh"), ("TERMFOLIO__SHELL__PROMPT", "%")])
      (Layer.ofVariables [("HOME", "hh")]) := by
    apply Relation.EqvGen.symm
    apply Relation.EqvGen.rel
    exact @Layer.MoreAt.behind "shell.prompt" Field.prompt.path [] (.text "%") [] [] rfl
  obtain ⟨_, _, beside⟩ := same listDisk ⟨[("HOME", "hh")], none⟩ (some "t.toml") _ others
    (stacked _ rfl) (tables _ (by decide)) otherLoaded
  intro α field apart
  exact (beside Field.prompt.path [[], layer] _ _ [] (.field .prompt) Field.prompt.lowercase_path rfl rfl
    differ).1 field apart

/-- A key for the first item of a list leaves the standard second one, though the list that its
layer gives has no more than the first. -/
theorem indexed_key_keeps_other_items :
    let environment : Environment :=
      ⟨[("HOME", "hh"), ("TERMFOLIO__BUILDER__IGNORE[0]", "x")], none⟩
    let disk : Disk := ⟨.directory [], []⟩
    ∃ layers settings layer given, upperLayers? [.toml] disk environment none = some layers ∧
      (∀ one ∈ layers, one.KeepsTables) ∧ load? [.toml] disk environment none = some settings ∧
      Layer.highest? Field.ignore.path (stack layers) = some (layer, given) ∧
      texts? given = some ["x"] ∧ settings.builder.ignore = ["x", ".git"] := by
  intro environment disk
  have loaded : load? [.toml] disk environment none = some { standard with
      builder := { WalkRules.standard with ignore := ["x", ".git"] } } := by decide +kernel
  exact ⟨_, _, _, _, rfl, by decide, loaded, rfl, by decide, rfl⟩

end Settings
end TreeShell
