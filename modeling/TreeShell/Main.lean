import TreeShell.CommandLine.Run

/-! The program itself. What the command line and the settings name is read from the
system first; the run works on that copy, and the files that it has changed are written
back. Whether a file may be executed is not read, so every file counts as plain text. No
client is at hand that could ask for served documents, and settings are in one format. -/

namespace TreeShell

def placeNames (path : DiskPath) : List String :=
  DiskPath.pieces path

def placePath (place : List String) : DiskPath :=
  "/" ++ "/".intercalate place

/-- Read what stands in a place, or what the names after it lead to from there, with
everything below it and everything on the way. -/
partial def observe (disk : Disk) (place : List String) : List String → IO Disk
  | "." :: rest => observe disk place rest
  | ".." :: rest => observe disk place.dropLast rest
  | rest => do
    let entry : IO.FS.DirEntry :=
      { root := placePath place.dropLast, fileName := place.getLast?.getD "" }
    let kind : Option IO.FS.FileType ←
      try pure (some (← entry.path.symlinkMetadata).type) catch _ => pure none
    match kind with
    | none | some .other => pure disk
    | some .file =>
      let bytes ← IO.FS.readBinFile entry.path
      pure (disk.put place (.file bytes.toList Disk.newFileMode))
    | some .symlink =>
      let target ← try pure (toString (← IO.FS.realPath entry.path)) catch _ => pure ""
      let linked := disk.put place (.link target)
      let known := rest.isEmpty && (disk.root.find? place).isSome
      if known || target == "" then pure linked
      else observe linked [] (placeNames target ++ rest)
    | some .dir =>
      let disk := if (disk.root.find? place).isSome then disk else disk.put place (.directory [])
      match rest with
      | name :: rest => observe disk (place ++ [name]) rest
      | [] =>
        let entries ← entry.path.readDir
        entries.toList.foldlM
          (fun disk (below : IO.FS.DirEntry) => observe disk (place ++ [below.fileName]) []) disk

def observePaths (disk : Disk) (paths : List DiskPath) : IO Disk :=
  paths.foldlM (fun disk path =>
    observe disk (if path.isAbsolute then [] else disk.workingDirectory) (placeNames path)) disk

def readEnvironment : IO Environment := do
  let bytes ← IO.FS.readBinFile "/proc/self/environ"
  let given := Text.runs (· == '\x00') (Text.Utf8.decodeLossy bytes.toList)
  pure
    { entries := given.map fun entry =>
        let (name, rest) := entry.toList.span (· != '=')
        (String.ofList name, String.ofList (rest.drop 1))
      accountHome := none }

def Surroundings.offline (disk : Disk) (environment : Environment) (input : String) :
    Surroundings where
  disk := disk
  environment := environment
  service := fun _ => .noClient "there is none"
  formats := [.toml]
  objection := fun _ => "not the document of a tree"
  input := input
  insideRuntime := false

def Invocation.settingsPaths (invocation : Invocation) (around : Surroundings) : List DiskPath :=
  (invocation.config.toList ++ around.environment.configFile.toOption.toList).flatMap fun path =>
    path :: around.formats.map fun format => path ++ format.ending

def Settings.readPaths (settings : Settings) (task : Task) : List DiskPath :=
  match task with
  | .build source _ => [source]
  | .check tree _ => [tree]
  | .exec origin _ _ | .shell origin _ _ =>
    match settings.treeSource origin with
    | .ok (.document path) => [path]
    | .ok (.directory builder) => [builder.source]
    | .ok (.remote ..) | .error _ => []
  | .config => []

def Settings.writtenPaths (settings : Settings) (environment : Environment) (task : Task) :
    List DiskPath :=
  let logged := (settings.logging.plan environment).toOption.bind (·.file)
  match task with
  | .build _ output => output :: logged.toList
  | _ => logged.toList

def writeBack (before after : Disk) (paths : List DiskPath) : IO Unit :=
  paths.forM fun path =>
    match after.read path with
    | .error _ => pure ()
    | .ok bytes => do
      unless (before.read path).toOption == some bytes do
        if let some parent := (DiskPath.parent? path).filter (· != "") then
          IO.FS.createDirAll parent
        IO.FS.writeBinFile path ⟨bytes.toArray⟩

def refuse (around : Surroundings) (cause : Refusal) : IO UInt32 := do
  IO.eprint (cause.complaint around.objection)
  pure cause.exitCode.toUInt32

/-- Read the paths that a run needs, carry it out, and write what it has changed. -/
def perform (invocation : Invocation) (environment : Environment) : IO UInt32 := do
  let start : Disk := ⟨.directory [], placeNames (toString (← IO.currentDir))⟩
  let around := Surroundings.offline start environment ""
  let disk ← observePaths start (invocation.settingsPaths around)
  match invocation.settings around.formats disk environment with
  | .error cause => refuse around cause
  | .ok settings =>
    let written := settings.writtenPaths environment invocation.task
    let disk ← observePaths disk (settings.readPaths invocation.task ++ written)
    let input ← match invocation.task with
      | .shell .. => (← IO.getStdin).readToEnd
      | _ => pure ""
    match invocation.run { around with disk, input } with
    | .error cause => refuse around cause
    | .ok outcome =>
      writeBack disk outcome.disk written
      IO.print outcome.printed
      pure 0

end TreeShell

def main (arguments : List String) : IO UInt32 := do
  let environment ← TreeShell.readEnvironment
  match TreeShell.Invocation.ofArguments arguments with
  | .error error =>
    TreeShell.refuse (.offline ⟨.directory [], []⟩ environment "") (.usage error)
  | .ok invocation => TreeShell.perform invocation environment
