import TreeShell.Settings.Layer

/-! Settings out of what the layers make together. Unknown names are passed over, and
missing ones take their standard values. -/

namespace TreeShell

namespace TreeSettings

def ofSetting? (setting : Setting) : Option TreeSettings := do
  let members ← setting.section? ["file", "url", "source_dir", "timeout_secs"]
  let path := Setting.optional? Setting.text?
  let file ← Setting.member? members "file" path standard.file
  let url ← Setting.member? members "url" path standard.url
  let sourceDirectory ← Setting.member? members "source_dir" path standard.sourceDirectory
  let timeoutSeconds ←
    Setting.member? members "timeout_secs" Setting.natural? standard.timeoutSeconds
  pure { file, url, sourceDirectory, timeoutSeconds }

def toSetting (settings : TreeSettings) : Setting :=
  .table [("file", (settings.file.map .text).getD .absent),
    ("url", (settings.url.map .text).getD .absent),
    ("source_dir", (settings.sourceDirectory.map .text).getD .absent),
    ("timeout_secs", .integer settings.timeoutSeconds)]

end TreeSettings

namespace ShellSettings

def ofSetting? (setting : Setting) : Option ShellSettings := do
  let members ← setting.section? ["prompt", "render", "content_trust"]
  let prompt ← Setting.member? members "prompt" Setting.text? standard.prompt
  let render ← Setting.member? members "render"
    (Setting.choice? RenderMode.all RenderMode.name) standard.render
  let contentTrust ← Setting.member? members "content_trust"
    (Setting.choice? ContentTrust.all ContentTrust.name) standard.contentTrust
  pure { prompt, render, contentTrust }

def toSetting (settings : ShellSettings) : Setting :=
  .table [("prompt", .text settings.prompt), ("render", .text settings.render.name),
    ("content_trust", .text settings.contentTrust.name)]

end ShellSettings

namespace WalkRules

def ofSetting? (setting : Setting) : Option WalkRules := do
  let members ← setting.section? ["follow_symlinks", "ignore", "max_depth"]
  let followLinks ← Setting.member? members "follow_symlinks" Setting.bool? standard.followLinks
  let ignore ← Setting.member? members "ignore" Setting.texts? standard.ignore
  let maxDepth ← Setting.member? members "max_depth"
    (Setting.optional? Setting.natural?) standard.maxDepth
  pure { followLinks, ignore, maxDepth }

def toSetting (rules : WalkRules) : Setting :=
  .table [("follow_symlinks", .bool rules.followLinks),
    ("ignore", .list (rules.ignore.map .text)),
    ("max_depth", (rules.maxDepth.map fun depth => .integer depth).getD .absent)]

end WalkRules

namespace LoggingSettings

def ofSetting? (setting : Setting) : Option LoggingSettings := do
  let members ← setting.section?
    ["enabled", "level", "format", "output", "file", "color", "modules"]
  let enabled ← Setting.member? members "enabled" Setting.bool? standard.enabled
  let level ← Setting.member? members "level" Setting.text? standard.level
  let format ← Setting.member? members "format" Setting.text? standard.format
  let output ← Setting.member? members "output" Setting.text? standard.output
  let file ← Setting.member? members "file" (Setting.optional? Setting.text?) standard.file
  let color ← Setting.member? members "color" Setting.bool? standard.color
  let modules ← Setting.member? members "modules" Setting.textMap? standard.modules
  pure { enabled, level, format, output, file, color, modules }

/-- Without levels of modules the setting has no member for them. -/
def toSetting (settings : LoggingSettings) : Setting :=
  .table ([("enabled", .bool settings.enabled), ("level", .text settings.level),
    ("format", .text settings.format), ("output", .text settings.output),
    ("file", (settings.file.map .text).getD .absent), ("color", .bool settings.color)] ++
    if settings.modules.isEmpty then []
    else [("modules", .table (settings.modules.map fun (name, level) => (name, .text level)))])

end LoggingSettings

namespace Settings

def ofSetting? (setting : Setting) : Option Settings := do
  let members ← setting.section? ["tree", "shell", "builder", "logging"]
  let tree ← Setting.member? members "tree" TreeSettings.ofSetting? .standard
  let shell ← Setting.member? members "shell" ShellSettings.ofSetting? .standard
  let builder ← Setting.member? members "builder" WalkRules.ofSetting? .standard
  let logging ← Setting.member? members "logging" LoggingSettings.ofSetting? .standard
  pure { tree, shell, builder, logging }

def toLayer (settings : Settings) : Layer :=
  [("tree", settings.tree.toSetting), ("shell", settings.shell.toSetting),
    ("builder", settings.builder.toSetting), ("logging", settings.logging.toSetting)]

end Settings
end TreeShell
