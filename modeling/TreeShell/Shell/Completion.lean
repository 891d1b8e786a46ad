import TreeShell.Shell.Resolution
import TreeShell.Text.Blank

/-! Completion of a path argument. The part of the argument up to its last separator
names a folder, and the part after it selects children of that folder by how their
names begin. -/

namespace TreeShell

inductive Completion where
  | noop
  | replace (line : String)
  | ambiguous (candidates : List String)
  | noMatches (term : String)
  | noSuchDirectory (parent : String)
deriving DecidableEq, Repr

namespace Completion

/-- The command and the argument to complete, if a line has both. -/
def request? (line : String) : Option (String × String) :=
  match Text.words line with
  | command :: argument :: _ => some (command, argument)
  | _ => none

/-- The part of an argument before its last separator, and what its name begins with. -/
def split (argument : String) : Option String × String :=
  match Path.splitLast argument.toList with
  | some (parent, term) => (some (String.ofList parent), String.ofList term)
  | none => (none, argument)

def display (node : Node) : String :=
  if node.isFolder then node.name ++ "/" else node.name

/-- A child as typed, behind the parent that was typed before it. -/
def candidate (parent : Option String) (node : Node) : String :=
  match parent with
  | some parent => parent ++ "/" ++ display node
  | none => display node

def candidates (folder : Node) (term : String) : List Node :=
  (folder.children.map Prod.snd).filter fun child => term.toList.isPrefixOf child.name.toList

end Completion

namespace FileTree

def folderOrRoot (tree : FileTree) (path : String) : Node :=
  match tree.lookup path with
  | some node => if node.isFolder then node else tree.root
  | none => tree.root

/-- Complete the argument of a line from the working directory `current`. -/
def complete (tree : FileTree) (current line : String) : Completion :=
  match Completion.request? line with
  | none => .noop
  | some (command, argument) =>
    let (parent, term) := Completion.split (Path.strip argument)
    let folder := match parent with
      | none => some (tree.folderOrRoot current)
      | some parent => (tree.resolveFolder current (some parent)).toOption
    match folder with
    | none => .noSuchDirectory (parent.getD "")
    | some folder =>
      match Completion.candidates folder term with
      | [] => .noMatches term
      | [only] => .replace (command ++ " " ++ Completion.candidate parent only)
      | several => .ambiguous (several.map (Completion.candidate parent))

end FileTree
end TreeShell
