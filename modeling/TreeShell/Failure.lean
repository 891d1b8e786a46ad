import TreeShell.Disk.DiskError
import TreeShell.Disk.DiskPath
import TreeShell.Pattern.Reader
import TreeShell.Service
import TreeShell.Tree.Document

/-! Everything that can stop an operation outside of the prompt, with the wording of
each cause. -/

namespace TreeShell

inductive Misconfiguration where
  | noHome
  | noStateDirectory
  | logFormat (found : String)
  | logOutput (found : String)
  | logLevel
  | logDirective
  | logField (fault : PatternFault)
  | logDirectory (error : DiskError)
  | logFile (path : DiskPath) (error : DiskError)
  | noTreeSource
  | nothingToWatch
  | checkFormat (found : String)
  | insideRuntime
  | numberTooLarge
deriving DecidableEq

def Misconfiguration.message : Misconfiguration → String
  | .noHome => "Could not determine XDG config home directory (HOME not set)"
  | .noStateDirectory => "Could not determine platform state directory for log file"
  | .logFormat found => s!"Invalid log format: {found} (must be 'json' or 'text')"
  | .logOutput found =>
    s!"Invalid log output: {found} " ++
      "(must be 'stdout', 'stderr', 'file', 'file+stderr', or 'both')"
  | .logLevel =>
    "Invalid log directive: error parsing level filter: expected one of " ++
      "\"off\", \"error\", \"warn\", \"info\", \"debug\", \"trace\", or a number 0-5"
  | .logDirective => "Invalid log directive: invalid filter directive"
  | .logField .malformed => "Invalid log directive: invalid field filter: error building NFA"
  | .logField .wordEdge =>
    "Invalid log directive: invalid field filter: unsupported regex feature for DFAs: " ++
      "cannot build DFAs for regexes with Unicode word boundaries; switch to ASCII word " ++
      "boundaries, or heuristically enable Unicode word boundaries or use a different regex engine"
  | .logDirectory error => s!"Failed to create log directory: {error.message}"
  | .logFile path error => s!"Failed to open log file {Text.quoted path}: {error.message}"
  | .noTreeSource =>
    "No tree source: pass --tree, --url or --source, or set [tree] in the config"
  | .nothingToWatch => "--watch needs a local tree document or source directory"
  | .checkFormat found => s!"Invalid format: {found} (must be 'text' or 'json')"
  | .insideRuntime => "Cannot start a runtime from within an async runtime context"
  | .numberTooLarge => "Failed to serialize config: out-of-range value for u64 type"

inductive Failure where
  | configuration (cause : Misconfiguration)
  | disk (cause : DiskError)
  | malformedDocument (document : List UInt8)
  | invalidTree (fault : TreeFault)
  | notADirectory (path : DiskPath)
  | fetch (fault : FetchFault)
  | unwatchable (path : DiskPath)
deriving DecidableEq

/-- What is told of a failure. Of a document that is no tree document the one who has read it says
more. -/
def Failure.message (objection : List UInt8 → String) : Failure → String
  | .configuration cause => s!"Configuration error: {cause.message}"
  | .disk cause => s!"I/O error: {cause.message}"
  | .malformedDocument document => s!"Malformed tree document: {objection document}"
  | .invalidTree fault => s!"Invalid tree: {fault.message}"
  | .notADirectory path => s!"{path} is not a directory"
  | .fetch fault => s!"Failed to fetch tree: {fault.message}"
  | .unwatchable path => s!"Watch error: {path} has no parent"

def DocumentError.toFailure (document : List UInt8) : DocumentError → Failure
  | .malformed => .malformedDocument document
  | .invalid fault => .invalidTree fault

end TreeShell
