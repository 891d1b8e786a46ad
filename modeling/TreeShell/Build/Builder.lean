import TreeShell.Build.Walk
import TreeShell.Failure

/-! Trees out of directories. Each thing that a walk meets is put under the folder
that its parent became; the source itself becomes the root. -/

namespace TreeShell

namespace Node

/-- Put a child into the folder that the names lead to. `make` gives the child its place
once the folder's path is known. -/
def placeChild? (make : String → Node) : List String → Node → Option Node
  | [], .folder name path children => addChild? (make path) (.folder name path children)
  | step :: rest, .folder name path children =>
    match children.lookup step with
    | none => none
    | some next =>
      match placeChild? make rest next with
      | none => none
      | some changed => some (.folder name path (Children.insert step changed children))
  | _, .file .. => none

theorem ordered_placeChild? {make : String → Node} (made : ∀ path, (make path).Ordered) :
    ∀ (steps : List String) {node result : Node}, node.Ordered →
      placeChild? make steps node = some result → result.Ordered
  | [], .folder name path children, result, ordered, placed => by
    rw [placeChild?] at placed
    exact ordered_addChild (made path) ordered placed
  | step :: rest, .folder name path children, result, ordered, placed => by
    rw [placeChild?] at placed
    split at placed
    · simp at placed
    · rename_i next found
      split at placed
      · simp at placed
      · rename_i changed inside
        cases Option.some.inj placed
        obtain ⟨ascending, below⟩ := ordered_folder_iff.mp ordered
        have member : (step, next) ∈ children := by
          obtain ⟨before, after, rfl, _⟩ := List.lookup_eq_some_iff.mp found
          simp
        refine ordered_folder_iff.mpr ⟨Children.ascending_insert ascending, fun entry kept => ?_⟩
        rcases Children.mem_insert kept with rfl | old
        · exact ordered_placeChild? made rest (below _ member) inside
        · exact below entry old
  | [], .file .., _, _, placed | _ :: _, .file .., _, _, placed => by simp [placeChild?] at placed

end Node

/-- A directory to build a tree from, and how to walk it. -/
structure Builder where
  source : DiskPath
  rules : WalkRules
deriving DecidableEq, Repr

namespace Builder

def nodeOf? (name : String) : Item → Option (String → Node)
  | .directory _ => some fun path => Node.folderUnder path name []
  | .file bytes mode => some fun path =>
    Node.fileUnder path name (Text.Utf8.decodeLossy bytes) (mode &&& Item.executableBits != 0)
  | .link _ => none

theorem ordered_nodeOf? {name : String} {item : Item} {make : String → Node}
    (becomes : nodeOf? name item = some make) (path : String) : (make path).Ordered := by
  cases item with
  | directory entries =>
    cases Option.some.inj becomes
    exact Node.ordered_collected (by simp)
  | file bytes mode =>
    cases Option.some.inj becomes
    trivial
  | link target => simp [nodeOf?] at becomes

def placeText (names : List String) : String :=
  "/" ++ "/".intercalate names

def add (source : List String) (root : { root : Node // root.Ordered })
    (met : Except WalkError Encounter) : Except Failure { root : Node // root.Ordered } :=
  match met with
  | .error (.disk error) => .error (.disk error)
  | .error (.loop names) => .error (.invalidTree (.linkLoop (placeText (source ++ names))))
  | .ok encounter =>
    match encounter.names.getLast? with
    | none => .ok root
    | some name =>
      match becomes : nodeOf? name encounter.item with
      | none => .ok root
      | some make =>
        match placed : root.val.placeChild? make encounter.names.dropLast with
        | none => .error (.invalidTree (.missingParent ("/".intercalate encounter.names)))
        | some result =>
          .ok ⟨result, Node.ordered_placeChild? (ordered_nodeOf? becomes) _ root.property placed⟩

def assemble (source : List String) (met : List (Except WalkError Encounter)) :
    Except Failure FileTree := do
  let empty : { root : Node // root.Ordered } :=
    ⟨Node.rootFolder [], Node.ordered_collected (by simp)⟩
  let root ← met.foldlM (add source) empty
  (FileTree.ofNode root.val root.property).mapError .invalidTree

def build (builder : Builder) (disk : Disk) : Except Failure FileTree :=
  match disk.locate builder.source with
  | .error error => .error (.disk error)
  | .ok (source, .directory entries) => assemble source (disk.walk builder.rules source entries)
  | .ok _ => .error (.notADirectory builder.source)

end Builder

namespace FileTree

def decode (document : List UInt8) : Except Failure FileTree :=
  (ofBytes document).mapError (DocumentError.toFailure document)

def load (disk : Disk) (path : DiskPath) : Except Failure FileTree :=
  match disk.read path with
  | .error error => .error (.disk error)
  | .ok document => decode document

def save (tree : FileTree) (disk : Disk) (path : DiskPath) : Except Failure Disk := do
  let disk ← match path.parent? with
    | none => pure disk
    | some parent => (disk.makeDirectories parent).mapError .disk
  (disk.write path (Text.Utf8.encode tree.toDocument)).mapError .disk

end FileTree

def Builder.buildTo (builder : Builder) (disk : Disk) (output : DiskPath) :
    Except Failure (FileTree × Disk) := do
  let tree ← builder.build disk
  let disk ← tree.save disk output
  pure (tree, disk)

end TreeShell
