import TreeShell.Disk.Disk
import TreeShell.Environment
import TreeShell.Settings.Decode
import TreeShell.Text.Utf8

/-! Loading settings. Over the standard settings lie the file in the place for settings,
then a file that is asked for, and on top the variables of the environment. Files may be in
several formats, which are told apart by the endings of their names. -/

namespace TreeShell

/-- A format of settings files, known by what their names end in. -/
structure FileFormat where
  ending : String
  layer? : String → Option Layer

namespace FileFormat

def toml : FileFormat := ⟨".toml", Layer.ofDocument?⟩

@[simp] theorem layer?_toml : toml.layer? = Layer.ofDocument? :=
  rfl

def isOf (format : FileFormat) (name : String) : Bool :=
  name != format.ending && format.ending.toList.isSuffixOf name.toList

end FileFormat

section Formats

variable (formats : List FileFormat)

namespace Layer

/-- The file meant by a path, and its format: that file itself by the ending that it has, or the
first one with an ending added to its name. -/
def fileOf? (disk : Disk) (path : DiskPath) : Option (FileFormat × DiskPath) :=
  match DiskPath.fileName? path with
  | none => none
  | some name =>
    if disk.isFile path then (formats.find? (·.isOf name)).map (·, path)
    else
      formats.findSome? fun format =>
        let completed := DiskPath.join ((DiskPath.parent? path).getD "") (name ++ format.ending)
        if disk.isFile completed then some (format, completed) else none

/-- The text of the file meant by a path. Bytes that spell no text cannot be read. -/
def textOf? (disk : Disk) (path : DiskPath) : Option (FileFormat × String) :=
  (fileOf? formats disk path).bind fun (format, file) =>
    ((disk.read file).toOption.bind Text.Utf8.decode?).map (format, ·)

end Layer

namespace Settings

def globalLayer? (disk : Disk) (environment : Environment) : Option Layer :=
  match environment.configFile.toOption.bind (Layer.textOf? formats disk) with
  | none => some []
  | some (format, text) => format.layer? text

def explicitLayer? (disk : Disk) : Option DiskPath → Option Layer
  | none => some []
  | some path => (Layer.textOf? formats disk path).bind fun (format, text) => format.layer? text

/-- The settings of a run, if every layer can be read and every value fits its place. -/
def load? (disk : Disk) (environment : Environment) (explicit : Option DiskPath) :
    Option Settings := do
  let fromPlace ← globalLayer? formats disk environment
  let fromFile ← explicitLayer? formats disk explicit
  let fromVariables := Layer.ofVariables environment.entries
  ofSetting? (Setting.ofLayers [Settings.standard.toLayer, fromPlace, fromFile, fromVariables])

end Settings

end Formats
end TreeShell
