import TreeShell.Failure

/-! The variables that the program is started with, and the places that follow from
them. -/

namespace TreeShell

structure Environment where
  entries : List (String × String)
  /-- The home directory that the system has on record for the user. -/
  accountHome : Option DiskPath

namespace Environment

def get? (environment : Environment) (name : String) : Option String :=
  environment.entries.lookup name

def filled? (environment : Environment) (name : String) : Option String :=
  (environment.get? name).filter (· != "")

/-- Where settings are kept: the configured place, or one below the home directory. -/
def configHome (environment : Environment) : Except Misconfiguration DiskPath :=
  match environment.filled? "XDG_CONFIG_HOME" with
  | some place => .ok place
  | none =>
    match environment.get? "HOME" with
    | some home => .ok (DiskPath.join home ".config")
    | none => .error .noHome

def configFile (environment : Environment) : Except Misconfiguration DiskPath :=
  environment.configHome.map fun home =>
    DiskPath.join (DiskPath.join home "termfolio") "config.toml"

def home? (environment : Environment) : Option DiskPath :=
  (environment.filled? "HOME").or environment.accountHome

/-- Where state is kept. A configured place counts only if it is absolute, and nothing
counts without a home directory. -/
def stateHome? (environment : Environment) : Option DiskPath :=
  environment.home?.map fun home =>
    ((environment.get? "XDG_STATE_HOME").filter DiskPath.isAbsolute).getD
      (DiskPath.join home ".local/state")

end Environment
end TreeShell
