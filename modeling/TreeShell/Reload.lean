import TreeShell.Build.Builder
import TreeShell.Slot

/-! Where trees are loaded from, and what has to change on the disk before loading one
again can give another tree. -/

namespace TreeShell

inductive TreeSource where
  | document (path : DiskPath)
  | remote (location : String) (timeoutSeconds : Nat)
  | directory (builder : Builder)
deriving DecidableEq, Repr

namespace TreeSource

def describe : TreeSource → String
  | .document path => path
  | .remote location _ => location
  | .directory builder => builder.source

def fetch (service : Service) (disk : Disk) : TreeSource → Except Failure FileTree
  | .document path => FileTree.load disk path
  | .remote location timeoutSeconds =>
    match service.document ⟨location, "application/json", timeoutSeconds⟩ with
    | .error fault => .error (.fetch fault)
    | .ok body => FileTree.decode body
  | .directory builder => builder.build disk

end TreeSource

/-- A source on this disk, which can be loaded again when it changes. -/
inductive ReloadPlan where
  | document (path : DiskPath)
  | directory (builder : Builder)
deriving DecidableEq, Repr

inductive Change where
  | access
  | create
  | modify
  | remove
  | other
deriving DecidableEq, Repr

namespace ReloadPlan

def path : ReloadPlan → DiskPath
  | .document path => path
  | .directory builder => builder.source

def reload (disk : Disk) : ReloadPlan → Except Failure FileTree
  | .document path => FileTree.load disk path
  | .directory builder => builder.build disk

/-- Whether a change can give another tree. Reading changes nothing; a document is known
by its file name; below a directory, paths with an ignored component do not count. -/
def isRelevant (plan : ReloadPlan) (change : Change) (paths : List DiskPath) : Bool :=
  if change == .access then false
  else match plan with
    | .document path =>
      match path.fileName? with
      | none => false
      | some name => paths.any fun changed => changed.fileName? == some name
    | .directory builder =>
      paths.any fun changed =>
        !changed.components.any fun component => builder.rules.ignores component.text

end ReloadPlan

namespace Slot

variable (objection : List UInt8 → String)

def loadFrom (slot : Slot) (service : Service) (disk : Disk) (source : TreeSource) :
    Slot × Except Failure Unit :=
  let outcome := source.fetch service disk
  (slot.load (outcome.mapError (Failure.message objection)), outcome.map fun _ => ())

def reloadFrom (slot : Slot) (disk : Disk) (plan : ReloadPlan) : Slot × Except Failure Unit :=
  let outcome := plan.reload disk
  (slot.reload (outcome.mapError (Failure.message objection)), outcome.map fun _ => ())

end Slot
end TreeShell
