import TreeShell.CommandLine.Arguments
import TreeShell.Reload

/-! What flags and settings come to together. A flag goes before the settings. -/

namespace TreeShell

def Invocation.override (invocation : Invocation) (settings : Settings) : Settings :=
  { settings with
    logging := { settings.logging with
      level := invocation.logLevel.getD settings.logging.level
      format := invocation.logFormat.getD settings.logging.format
      output := invocation.logOutput.getD settings.logging.output
      file := invocation.logFile.or settings.logging.file } }

namespace Settings

def builderOf (settings : Settings) (source : DiskPath) : Builder :=
  ⟨source, settings.builder⟩

/-- Where the tree comes from: the place that a flag names, else the first that the
settings name. -/
def treeSource (settings : Settings) (origin : Origin) : Except Misconfiguration TreeSource :=
  let ofLocation := fun location => TreeSource.remote location settings.tree.timeoutSeconds
  let ofDirectory := fun source => TreeSource.directory (settings.builderOf source)
  let ofFlags := ((origin.tree.map .document).or (origin.url.map ofLocation)).or
    (origin.source.map ofDirectory)
  let ofSettings := ((settings.tree.file.map .document).or
    (settings.tree.documentUrl?.map ofLocation)).or (settings.tree.sourceDirectory.map ofDirectory)
  match ofFlags.or ofSettings with
  | some source => .ok source
  | none => .error .noTreeSource

/-- What to load again when it changes. A place that the settings name counts only where
no flag and no earlier setting names a remote document or another place. -/
def reloadPlan (settings : Settings) (origin : Origin) : Except Misconfiguration ReloadPlan :=
  let file := origin.tree.or
    (if origin.url.isNone && origin.source.isNone then settings.tree.file else none)
  let directory := origin.source.or
    (if origin.url.isNone && settings.tree.url.isNone then settings.tree.sourceDirectory else none)
  match file, directory with
  | some path, _ => .ok (.document path)
  | none, some source => .ok (.directory (settings.builderOf source))
  | none, none => .error .nothingToWatch

def renderer (settings : Settings) (look : Look) : Renderer where
  mode := look.render.getD settings.shell.render
  trust := look.contentTrust.getD settings.shell.contentTrust
  prompt := settings.shell.prompt

end Settings
end TreeShell
