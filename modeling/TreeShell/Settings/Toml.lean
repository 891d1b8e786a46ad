import TreeShell.Settings.Basic
import TreeShell.Toml.Writer

/-! Settings as a TOML document. What is not set is left out. -/

namespace TreeShell

open Toml (Entry Section)

def optionalEntry (name : String) (entry : α → Entry) (value : Option α) : List (String × Entry) :=
  (value.map fun value => (name, entry value)).toList

def TreeSettings.section (settings : TreeSettings) : Section where
  path := ["tree"]
  entries := optionalEntry "file" .text settings.file ++ optionalEntry "url" .text settings.url ++
    optionalEntry "source_dir" .text settings.sourceDirectory ++
    [("timeout_secs", .natural settings.timeoutSeconds)]

def ShellSettings.section (settings : ShellSettings) : Section where
  path := ["shell"]
  entries := [("prompt", .text settings.prompt), ("render", .text settings.render.name),
    ("content_trust", .text settings.contentTrust.name)]

def WalkRules.section (rules : WalkRules) : Section where
  path := ["builder"]
  entries := [("follow_symlinks", .bool rules.followLinks), ("ignore", .texts rules.ignore)] ++
    optionalEntry "max_depth" .natural rules.maxDepth

def LoggingSettings.section (settings : LoggingSettings) : Section where
  path := ["logging"]
  entries := [("enabled", .bool settings.enabled), ("level", .text settings.level),
    ("format", .text settings.format), ("output", .text settings.output)] ++
    optionalEntry "file" .text settings.file ++ [("color", .bool settings.color)]

def LoggingSettings.modulesSection (settings : LoggingSettings) : Section where
  path := ["logging", "modules"]
  entries := settings.modules.map fun (name, level) => (name, .text level)

def Settings.sections (settings : Settings) : List Section :=
  [settings.tree.section, settings.shell.section, settings.builder.section,
    settings.logging.section, settings.logging.modulesSection]

def Settings.numbers (settings : Settings) : List Nat :=
  settings.tree.timeoutSeconds :: settings.builder.maxDepth.toList

def Settings.toDocument? (settings : Settings) : Option String :=
  if settings.numbers.all fun number => Digits.isWord number then
    some (Toml.documentOf settings.sections)
  else none

end TreeShell
