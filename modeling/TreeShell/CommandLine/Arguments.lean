import TreeShell.Settings.Basic

/-! What the program is asked to do on its command line. -/

namespace TreeShell

structure Origin where
  tree : Option DiskPath
  url : Option String
  source : Option DiskPath
deriving DecidableEq, Repr

structure Look where
  render : Option RenderMode
  contentTrust : Option ContentTrust
deriving DecidableEq, Repr

inductive Task where
  /-- Build a tree document out of a directory. -/
  | build (source output : DiskPath)
  /-- Check a tree document and count what is in it. -/
  | check (tree : DiskPath) (format : String)
  /-- Answer the given lines. -/
  | exec (origin : Origin) (look : Look) (lines : List String)
  /-- Answer lines as they come. -/
  | shell (origin : Origin) (watch : Bool) (look : Look)
  /-- Show the settings. -/
  | config
deriving DecidableEq, Repr

structure Invocation where
  task : Task
  config : Option DiskPath
  logLevel : Option String
  logFormat : Option String
  logOutput : Option String
  logFile : Option DiskPath
deriving DecidableEq, Repr

/-- Why a command line asks for nothing that can be done. -/
inductive UsageError where
  | unknownArgument
  | invalidValue
  | tooManyValues
  | argumentConflict
  | missingRequiredArgument
  | invalidSubcommand
  | missingSubcommand
  /-- Help is asked for. -/
  | help
  /-- Nothing is asked for, so help is shown. -/
  | helpForNothing
deriving DecidableEq, Repr

def Origin.none : Origin := ⟨.none, .none, .none⟩

def Origin.isSingle (origin : Origin) : Bool :=
  [origin.tree.isSome, origin.url.isSome, origin.source.isSome].count true ≤ 1

def Task.origin : Task → Origin
  | .exec origin _ _ | .shell origin _ _ => origin
  | .build _ _ | .check _ _ | .config => .none

def Task.look : Task → Look
  | .exec _ look _ | .shell _ _ look => look
  | .build _ _ | .check _ _ | .config => ⟨.none, .none⟩

end TreeShell
