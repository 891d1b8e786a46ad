import TreeShell.CommandLine.Plan
import TreeShell.CommandLine.Reading
import TreeShell.Display.Sink
import TreeShell.Logging.Plan
import TreeShell.Settings.Load
import TreeShell.Settings.Toml
import TreeShell.Shell.Script
import TreeShell.Text.Lines
import TreeShell.Tree.StatsTable

/-! A run of the program: the command line, the settings, logging, and then the task. -/

namespace TreeShell

/-- What a task finds around it. -/
structure Surroundings where
  disk : Disk
  environment : Environment
  service : Service
  /-- The formats that settings may be written in. -/
  formats : List FileFormat
  /-- What is said of a document that is no tree document, once it has been read. -/
  objection : List UInt8 → String
  /-- The lines to answer, as one text. -/
  input : String
  /-- Whether the caller runs tasks of its own, beside which no others can be started. -/
  insideRuntime : Bool

structure Outcome where
  disk : Disk
  /-- What a session has written while it went on. -/
  transcript : String
  /-- What the task answers in the end. -/
  answer : String

inductive Refusal where
  | usage (error : UsageError)
  /-- The settings cannot be loaded. -/
  | settings
  | logging (cause : Misconfiguration)
  | task (cause : Failure)
deriving DecidableEq

namespace Surroundings

def checkRuntime (around : Surroundings) : Except Failure Unit :=
  if around.insideRuntime then .error (.configuration .insideRuntime) else .ok ()

/-- Refuse to watch a place that is not there, or that lies in no directory. -/
def checkWatch (around : Surroundings) (plan : ReloadPlan) : Except Failure Unit :=
  match around.disk.locate plan.path with
  | .error error => .error (.disk error)
  | .ok (place, _) =>
    match plan with
    | .document path => if place.isEmpty then .error (.unwatchable path) else .ok ()
    | .directory _ => .ok ()

def loaded (around : Surroundings) (source : TreeSource) : Slot :=
  (Slot.loading.loadFrom around.objection around.service around.disk source).1

end Surroundings

namespace Settings

def runBuild (settings : Settings) (around : Surroundings) (source output : DiskPath) :
    Except Failure Outcome := do
  let (tree, disk) ← (settings.builderOf source).buildTo around.disk output
  let stats := tree.stats
  pure ⟨disk, "", s!"Built tree from {source}: {stats.folders} folders, {stats.files} files" ++
    s!" -> {output}"⟩

def runCheck (around : Surroundings) (tree : DiskPath) (format : String) :
    Except Failure Outcome := do
  let tree ← FileTree.load around.disk tree
  match format with
  | "json" => pure ⟨around.disk, "", tree.stats.toJson.toPrettyText⟩
  | "text" => pure ⟨around.disk, "", tree.stats.table⟩
  | _ => .error (.configuration (.checkFormat format))

/-- Answer lines. A tree that cannot be loaded is reported line by line, and is no error. -/
def runExec (settings : Settings) (around : Surroundings) (origin : Origin) (look : Look)
    (lines : List String) : Except Failure Outcome := do
  let source ← (settings.treeSource origin).mapError .configuration
  around.checkRuntime
  let signals := Session.transcript (around.loaded source) lines
  pure ⟨around.disk, "", Text.trimLineFeeds ((settings.renderer look).writeAll signals)⟩

def runShell (settings : Settings) (around : Surroundings) (origin : Origin) (watch : Bool)
    (look : Look) : Except Failure Outcome := do
  let plan ← if watch then ((settings.reloadPlan origin).map some).mapError .configuration
    else pure none
  let source ← (settings.treeSource origin).mapError .configuration
  around.checkRuntime
  plan.toList.forM around.checkWatch
  let signals := Session.transcript (around.loaded source) (Text.inputLines around.input)
  pure ⟨around.disk, (settings.renderer look).writeAll signals, ""⟩

def runConfig (settings : Settings) (around : Surroundings) : Except Failure Outcome :=
  match settings.toDocument? with
  | some document => .ok ⟨around.disk, "", document⟩
  | none => .error (.configuration .numberTooLarge)

def run (settings : Settings) (around : Surroundings) : Task → Except Failure Outcome
  | .build source output => settings.runBuild around source output
  | .check tree format => runCheck around tree format
  | .exec origin look lines => settings.runExec around origin look lines
  | .shell origin watch look => settings.runShell around origin watch look
  | .config => settings.runConfig around

end Settings

namespace Invocation

def settings (invocation : Invocation) (formats : List FileFormat) (disk : Disk)
    (environment : Environment) : Except Refusal Settings :=
  match Settings.load? formats disk environment invocation.config with
  | some settings => .ok (invocation.override settings)
  | none => .error .settings

def run (invocation : Invocation) (around : Surroundings) : Except Refusal Outcome := do
  let settings ← invocation.settings around.formats around.disk around.environment
  let disk ← (settings.logging.start around.environment around.disk).mapError .logging
  (settings.run { around with disk } invocation.task).mapError .task

end Invocation

/-- A whole run, from its command line on. -/
def runArguments (arguments : List String) (around : Surroundings) : Except Refusal Outcome := do
  let invocation ← (Invocation.ofArguments arguments).mapError .usage
  invocation.run around

/-- What the run prints: the transcript, and the answer as a line of its own. -/
def Outcome.printed (outcome : Outcome) : String :=
  outcome.transcript ++ if outcome.answer == "" then "" else outcome.answer ++ "\n"

namespace Refusal

def exitCode : Refusal → Nat
  | .usage .help => 0
  | .usage _ => 2
  | .settings | .logging _ | .task _ => 1

def complaint (objection : List UInt8 → String) : Refusal → String
  | .usage _ => ""
  | .settings => "Error loading configuration\n"
  | .logging cause => s!"Error initializing logging: {(Failure.configuration cause).message objection}\n"
  | .task cause => s!"Error: {cause.message objection}\n"

end Refusal
end TreeShell
