import TreeShell.Proofs.SettingAssignments

/-! The fields that settings are made of. Each is read from the value at its own path and takes its
standard value where there is none, so settings are read field by field. -/

namespace TreeShell

/-- A field of the settings that holds a single value, with the type of its values. -/
inductive Field : Type → Type where
  | treeFile : Field (Option DiskPath)
  | treeUrl : Field (Option String)
  | sourceDirectory : Field (Option DiskPath)
  | timeoutSeconds : Field Nat
  | prompt : Field String
  | render : Field RenderMode
  | contentTrust : Field ContentTrust
  | followLinks : Field Bool
  | ignore : Field (List String)
  | maxDepth : Field (Option Nat)
  | loggingEnabled : Field Bool
  | logLevel : Field String
  | logFormat : Field String
  | logOutput : Field String
  | logFile : Field (Option DiskPath)
  | logColor : Field Bool

/-- The sections of the settings. -/
inductive Settings.Part where
  | tree
  | shell
  | builder
  | logging
deriving DecidableEq

def Settings.Part.name : Part → String
  | .tree => "tree"
  | .shell => "shell"
  | .builder => "builder"
  | .logging => "logging"

namespace Field
open Setting

def part : Field α → Settings.Part
  | .treeFile | .treeUrl | .sourceDirectory | .timeoutSeconds => .tree
  | .prompt | .render | .contentTrust => .shell
  | .followLinks | .ignore | .maxDepth => .builder
  | .loggingEnabled | .logLevel | .logFormat | .logOutput | .logFile | .logColor => .logging

def name : Field α → String
  | .treeFile => "file"
  | .treeUrl => "url"
  | .sourceDirectory => "source_dir"
  | .timeoutSeconds => "timeout_secs"
  | .prompt => "prompt"
  | .render => "render"
  | .contentTrust => "content_trust"
  | .followLinks => "follow_symlinks"
  | .ignore => "ignore"
  | .maxDepth => "max_depth"
  | .loggingEnabled => "enabled"
  | .logLevel => "level"
  | .logFormat => "format"
  | .logOutput => "output"
  | .logFile => "file"
  | .logColor => "color"

def path (field : Field α) : List String :=
  [field.part.name, field.name]

/-- What a field makes of the value that is given for it. -/
def read : Field α → Setting → Option α
  | .treeFile => optional? text?
  | .treeUrl => optional? text?
  | .sourceDirectory => optional? text?
  | .timeoutSeconds => natural?
  | .prompt => text?
  | .render => choice? RenderMode.all RenderMode.name
  | .contentTrust => choice? ContentTrust.all ContentTrust.name
  | .followLinks => bool?
  | .ignore => texts?
  | .maxDepth => optional? natural?
  | .loggingEnabled => bool?
  | .logLevel => text?
  | .logFormat => text?
  | .logOutput => text?
  | .logFile => optional? text?
  | .logColor => bool?

def value (settings : Settings) : Field α → α
  | .treeFile => settings.tree.file
  | .treeUrl => settings.tree.url
  | .sourceDirectory => settings.tree.sourceDirectory
  | .timeoutSeconds => settings.tree.timeoutSeconds
  | .prompt => settings.shell.prompt
  | .render => settings.shell.render
  | .contentTrust => settings.shell.contentTrust
  | .followLinks => settings.builder.followLinks
  | .ignore => settings.builder.ignore
  | .maxDepth => settings.builder.maxDepth
  | .loggingEnabled => settings.logging.enabled
  | .logLevel => settings.logging.level
  | .logFormat => settings.logging.format
  | .logOutput => settings.logging.output
  | .logFile => settings.logging.file
  | .logColor => settings.logging.color

def put (settings : Settings) : Field α → α → Settings
  | .treeFile, value => { settings with tree.file := value }
  | .treeUrl, value => { settings with tree.url := value }
  | .sourceDirectory, value => { settings with tree.sourceDirectory := value }
  | .timeoutSeconds, value => { settings with tree.timeoutSeconds := value }
  | .prompt, value => { settings with shell.prompt := value }
  | .render, value => { settings with shell.render := value }
  | .contentTrust, value => { settings with shell.contentTrust := value }
  | .followLinks, value => { settings with builder.followLinks := value }
  | .ignore, value => { settings with builder.ignore := value }
  | .maxDepth, value => { settings with builder.maxDepth := value }
  | .loggingEnabled, value => { settings with logging.enabled := value }
  | .logLevel, value => { settings with logging.level := value }
  | .logFormat, value => { settings with logging.format := value }
  | .logOutput, value => { settings with logging.output := value }
  | .logFile, value => { settings with logging.file := value }
  | .logColor, value => { settings with logging.color := value }

@[simp] theorem value_put (settings : Settings) (field : Field α) (value : α) :
    field.value (field.put settings value) = value := by
  cases field <;> rfl

@[simp] theorem put_value (settings : Settings) (field : Field α) :
    field.put settings (field.value settings) = settings := by
  cases field <;> rfl

@[simp] theorem modules_put (settings : Settings) (field : Field α) (value : α) :
    (field.put settings value).logging.modules = settings.logging.modules := by
  cases field <;> rfl

private theorem heq_of_path_eq {field : Field α} {other : Field β} (same : field.path = other.path) :
    α = β ∧ HEq field other := by
  cases field <;> cases other <;> first | exact ⟨rfl, HEq.rfl⟩ | exact absurd same (by decide)

theorem lowercase_path (field : Field α) : ∀ name ∈ field.path, Text.lowercase name = name := by
  cases field <;> decide

theorem apart_of_part {field : Field α} {part : Settings.Part} (other : part ≠ field.part) :
    ¬field.path <+: [part.name] ∧ ¬[part.name] <+: field.path := by
  constructor
  · intro begins
    have short := begins.length_le
    simp [path] at short
  · intro begins
    have same : part.name = field.part.name := by simpa [path] using begins
    apply other
    cases part <;> cases inPart : field.part <;> rw [inPart] at same <;>
      first | rfl | exact absurd same (by decide)

theorem apart_of_name {field : Field α} {name : String} (other : name ≠ field.name) :
    ¬field.path <+: [field.part.name, name] ∧ ¬[field.part.name, name] <+: field.path := by
  constructor
  · intro begins
    have same : field.name = name := by simpa [path] using begins
    exact other same.symm
  · intro begins
    exact other (by simpa [path] using begins)

theorem value_put_of_ne {field : Field α} {other : Field β} (apart : field.path ≠ other.path)
    (settings : Settings) (value : α) : other.value (field.put settings value) = other.value settings := by
  cases field <;> cases other <;> first | rfl | exact absurd rfl apart

/-- A field as it is read from the value at its path, or its standard value. -/
def readFrom (setting : Setting) (field : Field α) : Option α :=
  match setting.under field.path with
  | none => some (field.value .standard)
  | some given => field.read given

end Field

namespace Setting

/-- The levels of modules as they are read from the table of them. -/
def levels? (setting : Setting) : Option (List (String × String)) :=
  match setting.under ["logging", "modules"] with
  | none => some []
  | some given => given.textMap?

variable {setting : Setting} {header name : String} {members : List (String × Setting)}

theorem under_section (found : setting.under [header] = some (.table members)) (names : List String) :
    setting.under (header :: names) = under names (.table members) := by
  have present : setting.members.lookup header = some (.table members) := by
    simpa [under] using found
  rw [under, present]
  rfl

theorem under_single (setting : Setting) (name : String) :
    setting.under [name] = setting.members.lookup name := by
  simp [under]

theorem under_append (path names : List String) (setting : Setting) :
    setting.under (path ++ names) = (setting.under path).bind (under names) := by
  induction path generalizing setting with
  | nil => rfl
  | cons name rest ih =>
    rw [List.cons_append, under, under, Option.bind_assoc]
    exact congrArg _ (funext ih)

end Setting

open Setting

section Sections

variable {setting : Setting} {header name : String} {members : List (String × Setting)}

theorem Field.readFrom_eq (field : Field α)
    (found : setting.under [field.part.name] = some (.table members)) :
    field.readFrom setting = member? members field.name field.read (field.value .standard) := by
  rw [readFrom, path, under_section found, under_single, member?]
  rfl

theorem TreeSettings.ofSetting?_eq_some_iff {settings : TreeSettings}
    (found : setting.under ["tree"] = some (.table members)) :
    ofSetting? (.table members) = some settings ↔
      Field.treeFile.readFrom setting = some settings.file ∧
      Field.treeUrl.readFrom setting = some settings.url ∧
      Field.sourceDirectory.readFrom setting = some settings.sourceDirectory ∧
      Field.timeoutSeconds.readFrom setting = some settings.timeoutSeconds := by
  obtain ⟨file, url, sourceDirectory, timeoutSeconds⟩ := settings
  rw [Field.treeFile.readFrom_eq found, Field.treeUrl.readFrom_eq found,
    Field.sourceDirectory.readFrom_eq found, Field.timeoutSeconds.readFrom_eq found]
  simp only [ofSetting?, section?, Option.bind_eq_bind, Option.bind_some, Option.bind_eq_some_iff,
    Option.pure_def, Option.some.injEq, TreeSettings.mk.injEq]
  constructor
  · rintro ⟨_, file, _, url, _, directory, _, timeout, rfl, rfl, rfl, rfl⟩
    exact ⟨file, url, directory, timeout⟩
  · rintro ⟨file, url, directory, timeout⟩
    exact ⟨_, file, _, url, _, directory, _, timeout, rfl, rfl, rfl, rfl⟩

theorem ShellSettings.ofSetting?_eq_some_iff {settings : ShellSettings}
    (found : setting.under ["shell"] = some (.table members)) :
    ofSetting? (.table members) = some settings ↔
      Field.prompt.readFrom setting = some settings.prompt ∧
      Field.render.readFrom setting = some settings.render ∧
      Field.contentTrust.readFrom setting = some settings.contentTrust := by
  obtain ⟨prompt, render, contentTrust⟩ := settings
  rw [Field.prompt.readFrom_eq found, Field.render.readFrom_eq found,
    Field.contentTrust.readFrom_eq found]
  simp only [ofSetting?, section?, Option.bind_eq_bind, Option.bind_some, Option.bind_eq_some_iff,
    Option.pure_def, Option.some.injEq, ShellSettings.mk.injEq]
  constructor
  · rintro ⟨_, prompt, _, render, _, trust, rfl, rfl, rfl⟩
    exact ⟨prompt, render, trust⟩
  · rintro ⟨prompt, render, trust⟩
    exact ⟨_, prompt, _, render, _, trust, rfl, rfl, rfl⟩

theorem WalkRules.ofSetting?_eq_some_iff {rules : WalkRules}
    (found : setting.under ["builder"] = some (.table members)) :
    ofSetting? (.table members) = some rules ↔
      Field.followLinks.readFrom setting = some rules.followLinks ∧
      Field.ignore.readFrom setting = some rules.ignore ∧
      Field.maxDepth.readFrom setting = some rules.maxDepth := by
  obtain ⟨followLinks, ignore, maxDepth⟩ := rules
  rw [Field.followLinks.readFrom_eq found, Field.ignore.readFrom_eq found,
    Field.maxDepth.readFrom_eq found]
  simp only [ofSetting?, section?, Option.bind_eq_bind, Option.bind_some, Option.bind_eq_some_iff,
    Option.pure_def, Option.some.injEq, WalkRules.mk.injEq]
  constructor
  · rintro ⟨_, links, _, ignore, _, depth, rfl, rfl, rfl⟩
    exact ⟨links, ignore, depth⟩
  · rintro ⟨links, ignore, depth⟩
    exact ⟨_, links, _, ignore, _, depth, rfl, rfl, rfl⟩

theorem LoggingSettings.ofSetting?_eq_some_iff {settings : LoggingSettings}
    (found : setting.under ["logging"] = some (.table members)) :
    ofSetting? (.table members) = some settings ↔
      Field.loggingEnabled.readFrom setting = some settings.enabled ∧
      Field.logLevel.readFrom setting = some settings.level ∧
      Field.logFormat.readFrom setting = some settings.format ∧
      Field.logOutput.readFrom setting = some settings.output ∧
      Field.logFile.readFrom setting = some settings.file ∧
      Field.logColor.readFrom setting = some settings.color ∧
      setting.levels? = some settings.modules := by
  obtain ⟨enabled, level, format, output, file, color, modules⟩ := settings
  have levels : setting.levels? = member? members "modules" textMap? [] := by
    rw [levels?, under_section found, under_single, member?]
    rfl
  rw [Field.loggingEnabled.readFrom_eq found, Field.logLevel.readFrom_eq found,
    Field.logFormat.readFrom_eq found, Field.logOutput.readFrom_eq found,
    Field.logFile.readFrom_eq found, Field.logColor.readFrom_eq found, levels]
  simp only [ofSetting?, section?, Option.bind_eq_bind, Option.bind_some, Option.bind_eq_some_iff,
    Option.pure_def, Option.some.injEq, LoggingSettings.mk.injEq]
  constructor
  · rintro ⟨_, enabled, _, level, _, format, _, output, _, file, _, color, _, modules,
      rfl, rfl, rfl, rfl, rfl, rfl, rfl⟩
    exact ⟨enabled, level, format, output, file, color, modules⟩
  · rintro ⟨enabled, level, format, output, file, color, modules⟩
    exact ⟨_, enabled, _, level, _, format, _, output, _, file, _, color, _, modules,
      rfl, rfl, rfl, rfl, rfl, rfl, rfl⟩

end Sections

namespace Settings

/-- One section is read from members as that of the settings. -/
def Part.Reads (members : List (String × Setting)) (settings : Settings) : Part → Prop
  | .tree => member? members "tree" TreeSettings.ofSetting? .standard = some settings.tree
  | .shell => member? members "shell" ShellSettings.ofSetting? .standard = some settings.shell
  | .builder => member? members "builder" WalkRules.ofSetting? .standard = some settings.builder
  | .logging => member? members "logging" LoggingSettings.ofSetting? .standard = some settings.logging

variable {setting : Setting} {settings : Settings} {members : List (String × Setting)}

theorem ofSetting?_eq_some_iff_reads (table : setting.IsTable) :
    ofSetting? setting = some settings ↔ ∀ part : Part, part.Reads setting.members settings := by
  obtain ⟨members, rfl⟩ : ∃ members, setting = .table members := by
    cases setting with
    | table members => exact ⟨members, rfl⟩
    | _ => exact table.elim
  obtain ⟨tree, shell, builder, logging⟩ := settings
  simp only [ofSetting?, section?, Option.bind_eq_bind, Option.bind_some, Option.bind_eq_some_iff,
    Option.pure_def, Option.some.injEq, Settings.mk.injEq]
  constructor
  · rintro ⟨_, tree, _, shell, _, builder, _, logging, rfl, rfl, rfl, rfl⟩ part
    cases part <;> assumption
  · intro reads
    exact ⟨_, reads .tree, _, reads .shell, _, reads .builder, _, reads .logging, rfl, rfl, rfl, rfl⟩

/-- A section that is a table is read field by field, that for logging with the levels of modules
beside. -/
theorem Part.reads_iff {part : Part}
    (found : setting.under [part.name] = some (.table members)) :
    part.Reads setting.members settings ↔
      (∀ {α : Type} (field : Field α), field.part = part →
        field.readFrom setting = some (field.value settings)) ∧
      (part = .logging → setting.levels? = some settings.logging.modules) := by
  have present := found
  rw [under_single] at present
  cases part with
  | tree =>
    simp only [Reads, member?, show setting.members.lookup "tree" = _ from present]
    rw [TreeSettings.ofSetting?_eq_some_iff found]
    constructor
    · rintro ⟨file, url, directory, timeout⟩
      refine ⟨fun field within => ?_, nofun⟩
      cases field <;> first | assumption | cases within
    · rintro ⟨fields, -⟩
      exact ⟨fields .treeFile rfl, fields .treeUrl rfl, fields .sourceDirectory rfl,
        fields .timeoutSeconds rfl⟩
  | shell =>
    simp only [Reads, member?, show setting.members.lookup "shell" = _ from present]
    rw [ShellSettings.ofSetting?_eq_some_iff found]
    constructor
    · rintro ⟨prompt, render, trust⟩
      refine ⟨fun field within => ?_, nofun⟩
      cases field <;> first | assumption | cases within
    · rintro ⟨fields, -⟩
      exact ⟨fields .prompt rfl, fields .render rfl, fields .contentTrust rfl⟩
  | builder =>
    simp only [Reads, member?, show setting.members.lookup "builder" = _ from present]
    rw [WalkRules.ofSetting?_eq_some_iff found]
    constructor
    · rintro ⟨links, ignore, depth⟩
      refine ⟨fun field within => ?_, nofun⟩
      cases field <;> first | assumption | cases within
    · rintro ⟨fields, -⟩
      exact ⟨fields .followLinks rfl, fields .ignore rfl, fields .maxDepth rfl⟩
  | logging =>
    simp only [Reads, member?, show setting.members.lookup "logging" = _ from present]
    rw [LoggingSettings.ofSetting?_eq_some_iff found]
    constructor
    · rintro ⟨enabled, level, format, output, file, color, modules⟩
      refine ⟨fun field within => ?_, fun _ => modules⟩
      cases field <;> first | assumption | cases within
    · rintro ⟨fields, modules⟩
      exact ⟨fields .loggingEnabled rfl, fields .logLevel rfl, fields .logFormat rfl,
        fields .logOutput rfl, fields .logFile rfl, fields .logColor rfl, modules trivial⟩

end Settings

/-- A table whose sections are tables. -/
structure Setting.HasSections (setting : Setting) : Prop where
  table : setting.IsTable
  sections : ∀ part : Settings.Part, ∃ members, setting.under [part.name] = some (.table members)

namespace Settings

variable {setting : Setting} {settings : Settings}

theorem ofSetting?_eq_some_iff (has : setting.HasSections) :
    ofSetting? setting = some settings ↔
      (∀ {α : Type} (field : Field α), field.readFrom setting = some (field.value settings)) ∧
        setting.levels? = some settings.logging.modules := by
  rw [ofSetting?_eq_some_iff_reads has.table]
  constructor
  · intro reads
    refine ⟨fun field => ?_, ?_⟩
    · obtain ⟨members, found⟩ := has.sections field.part
      exact ((Part.reads_iff found).mp (reads field.part)).1 field rfl
    · obtain ⟨members, found⟩ := has.sections .logging
      exact ((Part.reads_iff found).mp (reads .logging)).2 rfl
  · rintro ⟨fields, levels⟩ part
    obtain ⟨members, found⟩ := has.sections part
    exact (Part.reads_iff found).mpr ⟨fun field _ => fields field, fun _ => levels⟩

end Settings

/-- Settings in which no more than what stands for one field can be different. -/
structure Setting.AgreeBeside (field : Field α) (one other : Setting) : Prop where
  parts : ∀ part ≠ field.part, one.under [part.name] = other.under [part.name]
  names : ∀ name ≠ field.name,
    one.under [field.part.name, name] = other.under [field.part.name, name]

namespace Setting.AgreeBeside

variable {field : Field α} {one other third : Setting}

theorem refl (setting : Setting) : setting.AgreeBeside field setting where
  parts _ _ := rfl
  names _ _ := rfl

theorem symm (agree : one.AgreeBeside field other) : other.AgreeBeside field one where
  parts part apart := (agree.parts part apart).symm
  names name apart := (agree.names name apart).symm

theorem trans (agree : one.AgreeBeside field other) (further : other.AgreeBeside field third) :
    one.AgreeBeside field third where
  parts part apart := (agree.parts part apart).trans (further.parts part apart)
  names name apart := (agree.names name apart).trans (further.names name apart)

end Setting.AgreeBeside

namespace Settings

variable {settings : Settings} {one other : Setting} {field : Field α} {value : α}

private theorem Part.reads_put_of_ne {part : Part} (apart : part ≠ field.part) (value : α)
    (members : List (String × Setting)) :
    part.Reads members (field.put settings value) ↔ part.Reads members settings := by
  cases field <;> cases part <;> first | rfl | exact absurd rfl apart

private theorem Part.reads_congr {part : Part} {members others : List (String × Setting)}
    (same : members.lookup part.name = others.lookup part.name) :
    part.Reads members settings ↔ part.Reads others settings := by
  cases part <;>
    simp only [Part.name] at same <;> simp only [Part.Reads, member?, same]

theorem levels?_eq_of_agree (agree : one.AgreeBeside field other) (inLogging : field.part = .logging) :
    one.levels? = other.levels? := by
  have apart : "modules" ≠ field.name := by
    cases field <;> decide
  have same := agree.names "modules" apart
  rw [inLogging] at same
  rw [levels?, levels?, show ["logging", "modules"] = [Part.logging.name, "modules"] from rfl, same]

/-- Where one field is read, the settings that are read beside it come with its value. -/
theorem ofSetting?_put (oneTable : one.IsTable) (otherTable : other.IsTable)
    (agree : one.AgreeBeside field other)
    (here : ∃ members, one.under [field.part.name] = some (.table members))
    (there : ∃ members, other.under [field.part.name] = some (.table members))
    (reads : field.readFrom one = some value) (read : ofSetting? other = some settings) :
    ofSetting? one = some (field.put settings value) := by
  rw [ofSetting?_eq_some_iff_reads otherTable] at read
  rw [ofSetting?_eq_some_iff_reads oneTable]
  intro part
  by_cases within : part = field.part
  · subst within
    obtain ⟨_, found⟩ := here
    obtain ⟨_, otherFound⟩ := there
    obtain ⟨fields, levels⟩ := (Part.reads_iff otherFound).mp (read field.part)
    refine (Part.reads_iff found).mpr ⟨fun second inPart => ?_, fun inLogging => ?_⟩
    · by_cases same : field.path = second.path
      · obtain ⟨rfl, isField⟩ := Field.heq_of_path_eq same
        cases isField
        rw [reads, Field.value_put]
      · have apart : second.name ≠ field.name := by
          intro named
          exact same (by rw [Field.path, Field.path, named, inPart])
        have stands := agree.names second.name apart
        rw [← inPart] at stands
        rw [Field.value_put_of_ne same, ← fields second inPart, Field.readFrom, Field.readFrom,
          Field.path, stands]
    · rw [levels?_eq_of_agree agree inLogging, Field.modules_put]
      exact levels inLogging
  · have same := agree.parts part within
    rw [under_single, under_single] at same
    rw [Part.reads_put_of_ne within, Part.reads_congr same]
    exact read part

end Settings
end TreeShell
