import TreeShell.Shell.ShellError
import TreeShell.Tree.FileTree

/-! The place that a session reads its tree from. It is empty until a load ends; a
load that fails leaves the reason in it. -/

namespace TreeShell

inductive Slot where
  | loading
  | ready (tree : FileTree)
  | unavailable (reason : String)
deriving DecidableEq

namespace Slot

def tree? : Slot → Option FileTree
  | .ready tree => some tree
  | _ => none

/-- The tree, or the error that a command needing it answers. -/
def require : Slot → Except ShellError FileTree
  | .ready tree => .ok tree
  | .loading => .error .systemNotReady
  | .unavailable reason => .error (.fileSystemUnavailable reason)

/-- A load puts its outcome into the slot, whatever was there. -/
def load (_ : Slot) : Except String FileTree → Slot
  | .ok tree => .ready tree
  | .error reason => .unavailable reason

/-- A reload that fails leaves a tree in place that is there. -/
def reload (slot : Slot) : Except String FileTree → Slot
  | .ok tree => .ready tree
  | .error reason =>
    match slot with
    | .ready tree => .ready tree
    | _ => .unavailable reason

end Slot
end TreeShell
