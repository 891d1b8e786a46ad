import TreeShell.Shell.ShellError
import TreeShell.Tree.FileTree

/-! What an argument names, seen from a working directory. Resolution answers a node
and changes nothing; the caller decides whether to move there. -/

namespace TreeShell.FileTree

/-- The node at an absolute path, blamed on `argument` if there is none. -/
def locate (tree : FileTree) (path argument : String) : Except ShellError Node :=
  match tree.lookup path with
  | some node => .ok node
  | none => .error (.noSuchPath argument)

/-- What an argument names from the folder at `current`. A missing or empty argument
and the names of the root are the root; `..` alone is the parent; anything else is
looked up below `current`, in which `..` is a name like any other. -/
def resolve (tree : FileTree) (current : String) : Option String → Except ShellError Node
  | none => .ok tree.root
  | some argument =>
    if argument == "" || argument == "/" then .ok tree.root
    else
      let stripped := Path.strip argument
      if stripped == ".." then
        match Path.parent? current with
        | none => .error .noParentDirectory
        | some parent => tree.locate parent argument
      else if stripped == Path.root || stripped == Path.rootName then .ok tree.root
      else tree.locate (Path.join current stripped) argument

def resolveFolder (tree : FileTree) (current : String) (argument : Option String) :
    Except ShellError Node :=
  match tree.resolve current argument with
  | .error (.noSuchPath argument) => .error (.noSuchDirectory argument)
  | .error error => .error error
  | .ok node =>
    if node.isFolder then .ok node else .error (.notADirectory (argument.getD ""))

/-- The file that an argument names; here the argument must be given. -/
def resolveFile (tree : FileTree) (current : String) : Option String → Except ShellError Node
  | none => .error .missingArgument
  | some argument =>
    if argument == "" then .error .missingArgument
    else match tree.resolve current (some argument) with
      | .error (.noSuchPath argument) => .error (.noSuchFile argument)
      | .error error => .error error
      | .ok node => if node.isFile then .ok node else .error (.notAFile argument)

end TreeShell.FileTree
