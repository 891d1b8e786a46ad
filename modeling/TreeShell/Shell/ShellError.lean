/-! What a user can get wrong at the prompt. Each error carries the argument exactly
as it was typed. -/

namespace TreeShell

inductive ShellError where
  | missingArgument
  | noSuchPath (argument : String)
  | noSuchFile (argument : String)
  | noSuchDirectory (argument : String)
  | notAFile (argument : String)
  | notADirectory (argument : String)
  | noParentDirectory
  | systemNotReady
  | unrecognizedCommand (name : String)
  | fileSystemUnavailable (reason : String)
deriving DecidableEq, Repr

def ShellError.message : ShellError → String
  | .missingArgument => "No file specified"
  | .noSuchPath argument => s!"No such file or directory: {argument}"
  | .noSuchFile argument => s!"No such file: {argument}"
  | .noSuchDirectory argument => s!"No such directory: {argument}"
  | .notAFile argument => s!"Not a file: {argument}"
  | .notADirectory argument => s!"Not a directory: {argument}"
  | .noParentDirectory => "No parent directory"
  | .systemNotReady => "System not ready"
  | .unrecognizedCommand name => s!"Command not found: {name}"
  | .fileSystemUnavailable reason => s!"File system unavailable: {reason}"

end TreeShell
