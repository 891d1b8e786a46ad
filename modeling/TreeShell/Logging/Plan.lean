import TreeShell.Disk.Disk
import TreeShell.Environment
import TreeShell.Logging.Directive
import TreeShell.Settings.Basic

/-! Where a run logs to and how. Flags are part of the settings by now; variables of the
environment go before the settings. -/

namespace TreeShell

inductive LogFormat where
  | json
  | text
deriving DecidableEq, Repr

structure LogOutput where
  stdout : Bool
  stderr : Bool
  file : Bool
deriving DecidableEq, Repr

structure LogPlan where
  format : LogFormat
  output : LogOutput
  /-- The file, where lines go to one. -/
  file : Option DiskPath
deriving DecidableEq, Repr

def LogFormat.ofName? : String → Option LogFormat
  | "json" => some .json
  | "text" => some .text
  | _ => none

def LogOutput.ofName? : String → Option LogOutput
  | "stdout" => some ⟨true, false, false⟩
  | "stderr" => some ⟨false, true, false⟩
  | "file" => some ⟨false, false, true⟩
  | "file+stderr" => some ⟨false, true, true⟩
  | "both" => some ⟨true, true, false⟩
  | _ => none

def DirectiveFault.toMisconfiguration : DirectiveFault → Misconfiguration
  | .malformed => .logDirective
  | .level => .logLevel
  | .field fault => .logField fault

namespace Environment

def standardLogFile (environment : Environment) : Except Misconfiguration DiskPath :=
  match environment.stateHome? with
  | some place => .ok (DiskPath.join (DiskPath.join place "termfolio") "termfolio.log")
  | none => .error .noStateDirectory

/-- The file that lines go to: the one asked for, else the variable's, else the
configured one, else the standard one. An empty path is none. -/
def logFile (environment : Environment) (asked configured : Option DiskPath) :
    Except Misconfiguration DiskPath :=
  let filled := Option.filter (· != "")
  match ((filled asked).or (environment.filled? "TERMFOLIO_LOG_FILE")).or (filled configured) with
  | some path => .ok path
  | none => environment.standardLogFile

end Environment

namespace LoggingSettings

/-- The levels of single modules have to make sound directives, unless a sound filter in
the environment or the level that turns logging off takes their place. -/
def checkLevels (settings : LoggingSettings) (environment : Environment) :
    Except Misconfiguration Unit :=
  if ((environment.get? "TERMFOLIO_LOG").map isFilter).getD false || settings.level == "off" then
    .ok ()
  else
    (settings.modules.forM fun (name, level) =>
      Directive.check (name ++ "=" ++ level).toList).mapError DirectiveFault.toMisconfiguration

def logFormat (settings : LoggingSettings) (environment : Environment) :
    Except Misconfiguration LogFormat :=
  match (environment.get? "TERMFOLIO_LOG_FORMAT").bind LogFormat.ofName? with
  | some format => .ok format
  | none =>
    match LogFormat.ofName? settings.format with
    | some format => .ok format
    | none => .error (.logFormat settings.format)

/-- The variable's output, which has to be one if it is set, else the settings'. -/
def logOutput (settings : LoggingSettings) (environment : Environment) :
    Except Misconfiguration LogOutput :=
  let name := (environment.get? "TERMFOLIO_LOG_OUTPUT").getD settings.output
  match LogOutput.ofName? name with
  | some output => .ok output
  | none => .error (.logOutput name)

def plan (settings : LoggingSettings) (environment : Environment) :
    Except Misconfiguration LogPlan := do
  settings.checkLevels environment
  let format ← settings.logFormat environment
  let output ← settings.logOutput environment
  if output.file then
    let file ← environment.logFile none settings.file
    pure ⟨format, output, some file⟩
  else pure ⟨format, output, none⟩

end LoggingSettings

/-- Make sure that a log file can be written to, and the directories that it is in. -/
def Disk.openLog (disk : Disk) (file : DiskPath) : Except Misconfiguration Disk := do
  let disk ← match DiskPath.parent? file with
    | none => pure disk
    | some parent => (disk.makeDirectories parent).mapError .logDirectory
  (disk.modify file id).mapError (.logFile file)

def LoggingSettings.start (settings : LoggingSettings) (environment : Environment) (disk : Disk) :
    Except Misconfiguration Disk :=
  if !settings.enabled then .ok disk
  else do
    let plan ← settings.plan environment
    match plan.file with
    | none => pure disk
    | some file => disk.openLog file

end TreeShell
