import TreeShell.Json.Value
import TreeShell.Settings.Basic

/-! Settings as JSON. Sections are read from an object, where missing members take
their standard values and unknown ones are passed over, or from an array that lists
the members in order. -/

namespace TreeShell

namespace Json

def ofOption (write : α → Json) : Option α → Json
  | none => .null
  | some value => write value

def bool? : Json → Option Bool
  | .bool value => some value
  | _ => none

def string? : Json → Option String
  | .string value => some value
  | _ => none

def natural? : Json → Option Nat
  | .number (.integer value) => if 0 ≤ value then some value.toNat else none
  | _ => none

def optional? (read : Json → Option α) : Json → Option (Option α)
  | .null => some none
  | value => (read value).map some

def strings? : Json → Option (List String)
  | .array items => items.mapM string?
  | _ => none

def stringMap? : Json → Option (List (String × String))
  | .object members => members.foldlM (fun found (name, value) =>
      (string? value).map fun text => putSetting name text found) []
  | _ => none

def section? (names : List String) : Json → Option (List (String × Json))
  | .object members =>
    if names.all fun name => (members.filter (·.1 == name)).length ≤ 1 then some members else none
  | .array items => if items.length ≤ names.length then some (names.zip items) else none
  | _ => none

/-- A member as `read` makes of it, or the standard value where it is missing. -/
def member? (members : List (String × Json)) (name : String) (read : Json → Option α)
    (standard : α) : Option α :=
  match members.lookup name with
  | none => some standard
  | some value => read value

end Json

namespace WalkRules

def toJson (rules : WalkRules) : Json :=
  .object [("follow_symlinks", .bool rules.followLinks),
    ("ignore", .array (rules.ignore.map .string)),
    ("max_depth", .ofOption (fun depth => .number (.integer depth)) rules.maxDepth)]

def ofJson? (value : Json) : Option WalkRules := do
  let members ← Json.section? ["follow_symlinks", "ignore", "max_depth"] value
  let followLinks ← Json.member? members "follow_symlinks" Json.bool? standard.followLinks
  let ignore ← Json.member? members "ignore" Json.strings? standard.ignore
  let maxDepth ← Json.member? members "max_depth" (Json.optional? Json.natural?) standard.maxDepth
  pure { followLinks, ignore, maxDepth }

end WalkRules

namespace LoggingSettings

def toJson (settings : LoggingSettings) : Json :=
  .object [("enabled", .bool settings.enabled), ("level", .string settings.level),
    ("format", .string settings.format), ("output", .string settings.output),
    ("file", .ofOption .string settings.file), ("color", .bool settings.color),
    ("modules", .object (settings.modules.map fun (name, level) => (name, .string level)))]

def ofJson? (value : Json) : Option LoggingSettings := do
  let members ← Json.section?
    ["enabled", "level", "format", "output", "file", "color", "modules"] value
  let enabled ← Json.member? members "enabled" Json.bool? standard.enabled
  let level ← Json.member? members "level" Json.string? standard.level
  let format ← Json.member? members "format" Json.string? standard.format
  let output ← Json.member? members "output" Json.string? standard.output
  let file ← Json.member? members "file" (Json.optional? Json.string?) standard.file
  let color ← Json.member? members "color" Json.bool? standard.color
  let modules ← Json.member? members "modules" Json.stringMap? standard.modules
  pure { enabled, level, format, output, file, color, modules }

end LoggingSettings

namespace TreeSettings

def toJson (settings : TreeSettings) : Json :=
  .object [("file", .ofOption .string settings.file), ("url", .ofOption .string settings.url),
    ("source_dir", .ofOption .string settings.sourceDirectory),
    ("timeout_secs", .number (.integer settings.timeoutSeconds))]

end TreeSettings

namespace ShellSettings

def toJson (settings : ShellSettings) : Json :=
  .object [("prompt", .string settings.prompt), ("render", .string settings.render.name),
    ("content_trust", .string settings.contentTrust.name)]

end ShellSettings

def Settings.toJson (settings : Settings) : Json :=
  .object [("tree", settings.tree.toJson), ("shell", settings.shell.toJson),
    ("builder", settings.builder.toJson), ("logging", settings.logging.toJson)]

end TreeShell
