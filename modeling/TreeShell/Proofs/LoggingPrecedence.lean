import TreeShell.CommandLine.Plan
import TreeShell.Logging.Plan
import TreeShell.Proofs.FlagValues
import TreeShell.Proofs.Outcomes

/-! What a run logs by. Flags are put into the settings first and variables go before the settings
after that, so a variable goes before a flag as well. A flag has its way exactly where no variable
says something else. -/

namespace TreeShell

/-- What one source says about the format, the output and the file of a log. -/
structure LogLayer where
  format : Option String
  output : Option String
  file : Option DiskPath

/-- The names that a run logs by, before they are read. Without a file it is the standard one. -/
structure LogChoice where
  format : String
  output : String
  file : Option DiskPath

def Invocation.logLayer (invocation : Invocation) : LogLayer :=
  ⟨invocation.logFormat, invocation.logOutput, invocation.logFile⟩

def Environment.logLayer (environment : Environment) : LogLayer :=
  ⟨environment.get? "TERMFOLIO_LOG_FORMAT", environment.get? "TERMFOLIO_LOG_OUTPUT",
    environment.filled? "TERMFOLIO_LOG_FILE"⟩

namespace LogLayer

/-- The first layer where it says something, else the second. -/
def or (first second : LogLayer) : LogLayer :=
  ⟨first.format.or second.format, first.output.or second.output, first.file.or second.file⟩

def backedBy (layer : LogLayer) (settings : LoggingSettings) : LogChoice :=
  ⟨layer.format.getD settings.format, layer.output.getD settings.output,
    layer.file.or (settings.file.filter (· != ""))⟩

/-- Two sources do not contradict each other in what a plan makes use of. -/
structure Agrees (first second : LogLayer) (plan : LogPlan) : Prop where
  format : first.format = none ∨ second.format = none ∨ first.format = second.format
  output : first.output = none ∨ second.output = none ∨ first.output = second.output
  file : plan.output.file = true →
    first.file = none ∨ second.file = none ∨ first.file = second.file

end LogLayer

namespace LogChoice

def place (choice : LogChoice) (environment : Environment) : Except Misconfiguration DiskPath :=
  match choice.file with
  | some path => .ok path
  | none => environment.standardLogFile

/-- A plan is what a choice comes to. -/
structure Gives (choice : LogChoice) (environment : Environment) (plan : LogPlan) : Prop where
  format : LogFormat.ofName? choice.format = some plan.format
  output : LogOutput.ofName? choice.output = some plan.output
  file : if plan.output.file then
      ∃ path, choice.place environment = .ok path ∧ plan.file = some path
    else plan.file = none

end LogChoice

/-- The variables about logging are unset or hold names of a format and an output. -/
structure Environment.LogSound (environment : Environment) : Prop where
  format : ∀ name, environment.get? "TERMFOLIO_LOG_FORMAT" = some name →
    (LogFormat.ofName? name).isSome
  output : ∀ name, environment.get? "TERMFOLIO_LOG_OUTPUT" = some name →
    (LogOutput.ofName? name).isSome

theorem LogFormat.ofName?_injective {first second : String} {format : LogFormat}
    (one : ofName? first = some format) (two : ofName? second = some format) : first = second := by
  unfold ofName? at one two
  split at one
  all_goals cases one
  all_goals
    split at two
    all_goals cases two
    rfl

theorem LogOutput.ofName?_injective {first second : String} {output : LogOutput}
    (one : ofName? first = some output) (two : ofName? second = some output) : first = second := by
  unfold ofName? at one two
  split at one
  all_goals cases one
  all_goals
    split at two
    all_goals cases two
    rfl

private theorem getD_or_eq_iff {first second : Option α} {standard : α} :
    (first.or second).getD standard = (second.or first).getD standard ↔
      first = none ∨ second = none ∨ first = second := by
  cases first with
  | none => simp
  | some value =>
    cases second with
    | none => simp
    | some other => simp

namespace LoggingSettings

variable {settings : LoggingSettings} {environment : Environment}

theorem plan_eq_ok_iff {plan : LogPlan} :
    settings.plan environment = .ok plan ↔
      settings.checkLevels environment = .ok () ∧
      settings.logFormat environment = .ok plan.format ∧
      settings.logOutput environment = .ok plan.output ∧
      if plan.output.file then
        ∃ path, environment.logFile none settings.file = .ok path ∧ plan.file = some path
      else plan.file = none := by
  obtain ⟨format, output, file⟩ := plan
  simp only [LoggingSettings.plan, bind_eq_ok_iff]
  constructor
  · rintro ⟨⟨⟩, sound, found, named, streams, sent, rest⟩
    split at rest
    · rename_i toFile
      obtain ⟨path, placed, same⟩ := bind_eq_ok_iff.mp rest
      cases same
      refine ⟨sound, named, sent, ?_⟩
      rw [if_pos toFile]
      exact ⟨path, placed, rfl⟩
    · rename_i elsewhere
      cases rest
      refine ⟨sound, named, sent, ?_⟩
      rw [if_neg elsewhere]
  · rintro ⟨sound, named, sent, rest⟩
    refine ⟨(), sound, format, named, output, sent, ?_⟩
    split at rest
    · rename_i toFile
      obtain ⟨path, placed, rfl⟩ := rest
      rw [if_pos toFile, placed]
      rfl
    · rename_i elsewhere
      cases rest
      rw [if_neg elsewhere]
      rfl

end LoggingSettings

namespace Invocation

variable {invocation : Invocation} {environment : Environment} {settings : Settings}
  {plan : LogPlan}

/-- Variables before flags, and both before the settings. -/
def usedChoice (invocation : Invocation) (environment : Environment) (settings : Settings) : LogChoice :=
  (environment.logLayer.or invocation.logLayer).backedBy settings.logging

/-- Flags before variables, and both before the settings. -/
def askedChoice (invocation : Invocation) (environment : Environment) (settings : Settings) : LogChoice :=
  (invocation.logLayer.or environment.logLayer).backedBy settings.logging

theorem logFormat_override (sound : environment.LogSound) {format : LogFormat} :
    (invocation.override settings).logging.logFormat environment = .ok format ↔
      LogFormat.ofName? (usedChoice invocation environment settings).format = some format := by
  unfold LoggingSettings.logFormat
  cases given : environment.get? "TERMFOLIO_LOG_FORMAT" with
  | some name =>
    obtain ⟨known, read⟩ := Option.isSome_iff_exists.mp (sound.format name given)
    simp [usedChoice, Environment.logLayer, LogLayer.or, LogLayer.backedBy, given, read]
  | none =>
    have name : (usedChoice invocation environment settings).format =
        (invocation.override settings).logging.format := by
      simp [usedChoice, Environment.logLayer, LogLayer.or, LogLayer.backedBy, given, override, logLayer]
    rw [name]
    cases LogFormat.ofName? (invocation.override settings).logging.format <;> simp

theorem logOutput_override {output : LogOutput} :
    (invocation.override settings).logging.logOutput environment = .ok output ↔
      LogOutput.ofName? (usedChoice invocation environment settings).output = some output := by
  have name : (usedChoice invocation environment settings).output =
      (environment.get? "TERMFOLIO_LOG_OUTPUT").getD (invocation.override settings).logging.output := by
    cases given : environment.get? "TERMFOLIO_LOG_OUTPUT" <;>
      simp [usedChoice, Environment.logLayer, LogLayer.or, LogLayer.backedBy, given, override, logLayer]
  rw [name]
  cases read : LogOutput.ofName? ((environment.get? "TERMFOLIO_LOG_OUTPUT").getD
      (invocation.override settings).logging.output) with
  | none => simp [LoggingSettings.logOutput, read]
  | some known => simp [LoggingSettings.logOutput, read]

theorem logFile_override (named : invocation.logFile ≠ some "") :
    environment.logFile none (invocation.override settings).logging.file =
      (usedChoice invocation environment settings).place environment := by
  have filled : Option.filter (· != "") (invocation.override settings).logging.file =
      invocation.logFile.or (settings.logging.file.filter (· != "")) := by
    cases given : invocation.logFile with
    | none => simp [override, given]
    | some path =>
      have written : path ≠ "" := fun empty => named (by rw [given, empty])
      simp [override, given, Option.filter, written]
  unfold Environment.logFile LogChoice.place
  simp only [filled, usedChoice, LogLayer.backedBy, LogLayer.or, Environment.logLayer, logLayer,
    Option.filter_none, Option.none_or, Option.or_assoc]
  rfl

theorem plan_override_iff (sound : environment.LogSound) (named : invocation.logFile ≠ some "") :
    (invocation.override settings).logging.plan environment = .ok plan ↔
      (invocation.override settings).logging.checkLevels environment = .ok () ∧
        (usedChoice invocation environment settings).Gives environment plan := by
  rw [LoggingSettings.plan_eq_ok_iff, logFormat_override sound, logOutput_override,
    logFile_override named]
  exact and_congr_right fun _ => ⟨fun ⟨format, output, file⟩ => ⟨format, output, file⟩,
    fun ⟨format, output, file⟩ => ⟨format, output, file⟩⟩

theorem asked_place_iff (used : (usedChoice invocation environment settings).Gives environment plan)
    (toFile : plan.output.file = true) :
    (∃ path, (askedChoice invocation environment settings).place environment = .ok path ∧
      plan.file = some path) ↔
    invocation.logLayer.file = none ∨ environment.logLayer.file = none ∨
      invocation.logLayer.file = environment.logLayer.file := by
  obtain ⟨path, placed, held⟩ := (if_pos toFile).mp used.file
  rw [held]
  simp only [askedChoice, usedChoice, LogChoice.place, LogLayer.backedBy, LogLayer.or] at placed ⊢
  cases flag : invocation.logLayer.file with
  | none =>
    simp only [flag, Option.or_none, Option.none_or] at placed ⊢
    simp [placed]
  | some asked =>
    cases stated : environment.logLayer.file with
    | none =>
      simp only [flag, stated, Option.or_none, Option.none_or, Option.some_or] at placed ⊢
      cases placed
      simp
    | some found =>
      simp only [flag, stated, Option.some_or] at placed ⊢
      cases placed
      simp [eq_comm]

/-- That is what was asked for as far as flags and variables do not contradict each other. -/
private theorem asked_iff_agrees (used : (usedChoice invocation environment settings).Gives environment plan) :
    (askedChoice invocation environment settings).Gives environment plan ↔
      invocation.logLayer.Agrees environment.logLayer plan := by
  have format : LogFormat.ofName? (askedChoice invocation environment settings).format =
      some plan.format ↔ _ :=
    ⟨fun read => LogFormat.ofName?_injective read used.format, fun same => same ▸ used.format⟩
  have output : LogOutput.ofName? (askedChoice invocation environment settings).output =
      some plan.output ↔ _ :=
    ⟨fun read => LogOutput.ofName?_injective read used.output, fun same => same ▸ used.output⟩
  have sameFormat := format.trans getD_or_eq_iff
  have sameOutput := output.trans getD_or_eq_iff
  constructor
  · intro asked
    refine ⟨sameFormat.mp asked.format, sameOutput.mp asked.output, fun toFile => ?_⟩
    apply (asked_place_iff used toFile).mp
    exact (if_pos toFile).mp asked.file
  · intro agrees
    refine ⟨sameFormat.mpr agrees.format, sameOutput.mpr agrees.output, ?_⟩
    split
    · rename_i toFile
      exact (asked_place_iff used toFile).mpr (agrees.file toFile)
    · rename_i elsewhere
      exact (if_neg elsewhere).mp used.file

private theorem start_of_plan {disk : Disk} (enabled : settings.logging.enabled = true)
    (planned : (invocation.override settings).logging.plan environment = .ok plan) :
    (invocation.override settings).logging.start environment disk =
      plan.file.elim (.ok disk) disk.openLog := by
  have turnedOn : (invocation.override settings).logging.enabled = true := enabled
  unfold LoggingSettings.start
  rw [turnedOn, planned]
  obtain ⟨format, output, file⟩ := plan
  cases file <;> rfl

/-- With sound variables, a command line has its run plan to log by the variables, then the flags,
then the settings, and open the file of that plan. So the run does what flags before variables
would come to exactly where no variable contradicts a flag that the plan makes use of. -/
theorem log_plan_puts_variables_first {arguments : List String}
    (asked : ofArguments arguments = .ok invocation) (sound : environment.LogSound)
    (enabled : settings.logging.enabled = true) :
    let logging := (invocation.override settings).logging
    ∀ plan, (logging.plan environment = .ok plan ↔ logging.checkLevels environment = .ok () ∧
        (usedChoice invocation environment settings).Gives environment plan) ∧
      (logging.plan environment = .ok plan →
        ((askedChoice invocation environment settings).Gives environment plan ↔
          invocation.logLayer.Agrees environment.logLayer plan) ∧
        ∀ disk, logging.start environment disk = plan.file.elim (.ok disk) disk.openLog) := by
  intro logging plan
  have named := logFile_of_ofArguments asked
  refine ⟨plan_override_iff sound named, fun planned => ⟨?_, fun disk => ?_⟩⟩
  · exact asked_iff_agrees ((plan_override_iff sound named).mp planned).2
  · exact start_of_plan enabled planned

/-- A file that a flag names is not opened where the variable names another one. -/
theorem flagged_log_file_not_opened :
    let arguments := ["--log-output", "file", "--log-file", "flag.log", "config"]
    let invocation : Invocation := ⟨.config, none, none, none, some "file", some "flag.log"⟩
    let environment : Environment := ⟨[("TERMFOLIO_LOG_FILE", "variable.log")], none⟩
    let logging := (invocation.override .standard).logging
    ofArguments arguments = .ok invocation ∧ environment.LogSound ∧ logging.enabled = true ∧
      logging.plan environment = .ok ⟨.text, ⟨false, false, true⟩, some "variable.log"⟩ ∧
      ¬∃ plan, logging.plan environment = .ok plan ∧
        (askedChoice invocation environment .standard).Gives environment plan := by
  intro arguments invocation environment logging
  have planned : logging.plan environment =
      .ok ⟨.text, ⟨false, false, true⟩, some "variable.log"⟩ := by rfl
  refine ⟨rfl, ⟨nofun, nofun⟩, rfl, planned, ?_⟩
  rintro ⟨plan, same, _, _, place⟩
  rw [planned] at same
  cases same
  obtain ⟨path, placed, held⟩ := place
  cases held
  exact absurd (Except.ok.inj placed) (by decide)

/-- A variable that sends lines elsewhere as well keeps the file of the flag and overrules the
flag about the output. -/
theorem log_plan_of_flags_and_variable :
    let arguments :=
      ["--log-format=json", "--log-output", "file", "config", "--log-file", "flag.log"]
    let invocation : Invocation := ⟨.config, none, none, some "json", some "file", some "flag.log"⟩
    let environment : Environment := ⟨[("TERMFOLIO_LOG_OUTPUT", "file+stderr")], none⟩
    let logging := (invocation.override .standard).logging
    let plan : LogPlan := ⟨.json, ⟨false, true, true⟩, some "flag.log"⟩
    ofArguments arguments = .ok invocation ∧ environment.LogSound ∧
      Settings.standard.logging.enabled = true ∧ logging.plan environment = .ok plan ∧
      ¬(askedChoice invocation environment .standard).Gives environment plan := by
  intro arguments invocation environment logging plan
  have asked : ofArguments arguments = .ok invocation := rfl
  have sound : environment.LogSound := by
    refine ⟨nofun, fun name given => ?_⟩
    cases given
    rfl
  have enabled : Settings.standard.logging.enabled = true := rfl
  have follows := log_plan_puts_variables_first asked sound enabled plan
  have planned : logging.plan environment = .ok plan :=
    follows.1.mpr ⟨rfl, by decide, by decide, ⟨"flag.log", rfl, rfl⟩⟩
  refine ⟨asked, sound, enabled, planned, ?_⟩
  intro wanted
  have agrees := (follows.2 planned).1.mp wanted
  rcases agrees.output with absent | absent | same
  · cases absent
  · cases absent
  · exact absurd (Option.some.inj same) (by decide)

end Invocation
end TreeShell
