import TreeShell.Build.Walk
import TreeShell.Display.Renderer

/-! What can be set: where the tree comes from, how the shell looks, how a directory is
walked, and what is logged. Every setting has a standard value. -/

namespace TreeShell

structure TreeSettings where
  file : Option DiskPath
  url : Option String
  sourceDirectory : Option DiskPath
  timeoutSeconds : Nat
deriving DecidableEq, Repr

structure ShellSettings where
  prompt : String
  render : RenderMode
  contentTrust : ContentTrust
deriving DecidableEq, Repr

structure LoggingSettings where
  enabled : Bool
  level : String
  format : String
  output : String
  file : Option DiskPath
  color : Bool
  /-- Levels of single modules, under ascending names. -/
  modules : List (String × String)
deriving DecidableEq, Repr

structure Settings where
  tree : TreeSettings
  shell : ShellSettings
  builder : WalkRules
  logging : LoggingSettings
deriving DecidableEq, Repr

def TreeSettings.standard : TreeSettings := ⟨none, none, none, 10⟩

def ShellSettings.standard : ShellSettings := ⟨"$", .ansi, .trusted⟩

def LoggingSettings.standard : LoggingSettings :=
  ⟨true, "warn", "text", "stderr", none, true, []⟩

def Settings.standard : Settings :=
  ⟨.standard, .standard, .standard, .standard⟩

def documentName : String := "fileTree.json"

def TreeSettings.documentUrl? (settings : TreeSettings) : Option String :=
  settings.url.map fun url =>
    if url.toList.getLast? == some '/' then url ++ documentName else url

def RenderMode.name : RenderMode → String
  | .plain => "plain"
  | .ansi => "ansi"
  | .html => "html"

def RenderMode.all : List RenderMode := [.plain, .ansi, .html]

def RenderMode.ofName? (name : String) : Option RenderMode :=
  RenderMode.all.find? (·.name == name)

def ContentTrust.name : ContentTrust → String
  | .trusted => "trusted"
  | .escaped => "escaped"

def ContentTrust.all : List ContentTrust := [.trusted, .escaped]

def ContentTrust.ofName? (name : String) : Option ContentTrust :=
  ContentTrust.all.find? (·.name == name)

/-- Put an entry under a name, in ascending order and in place of any that is there. -/
def putSetting (name : String) (value : α) : List (String × α) → List (String × α)
  | [] => [(name, value)]
  | (key, other) :: rest =>
    if name < key then (name, value) :: (key, other) :: rest
    else if name == key then (name, value) :: rest
    else (key, other) :: putSetting name value rest

end TreeShell
