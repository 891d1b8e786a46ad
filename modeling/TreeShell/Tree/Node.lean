import TreeShell.Path

/-! Nodes of the virtual filesystem. A folder keeps its children under their names
in ascending order, one child to a name; a node also carries its own name and its
path, which a tree checks against the place where the node stands. -/

namespace TreeShell

/-- A folder or a file, as a tree document describes it. -/
inductive Node where
  | folder (name path : String) (children : List (String × Node))
  | file (name path content : String) (executable : Bool)

inductive EntryKind where
  | folder
  | executable
  | plain
deriving DecidableEq, Repr

namespace Node

def name : Node → String
  | .folder name .. => name
  | .file name .. => name

def path : Node → String
  | .folder _ path _ => path
  | .file _ path .. => path

/-- The children under their names; a file has none. -/
def children : Node → List (String × Node)
  | .folder _ _ children => children
  | .file .. => []

def isFolder : Node → Bool
  | .folder .. => true
  | .file .. => false

def isFile (node : Node) : Bool :=
  !node.isFolder

def content? : Node → Option String
  | .folder .. => none
  | .file _ _ content _ => some content

def isExecutable : Node → Bool
  | .folder .. => false
  | .file _ _ _ executable => executable

def kind : Node → EntryKind
  | .folder .. => .folder
  | .file _ _ _ true => .executable
  | .file _ _ _ false => .plain

def child? (node : Node) (name : String) : Option Node :=
  node.children.lookup name

/-- The node reached by stepping down through the named children in turn. -/
def descend (node : Node) : List String → Option Node
  | [] => some node
  | name :: rest =>
    match node.child? name with
    | none => none
    | some child => child.descend rest

mutual
def decEq : (first second : Node) → Decidable (first = second)
  | .folder name path children, .folder name' path' children' =>
    match decEqChildren children children' with
    | .isFalse differ => .isFalse (by simp [differ])
    | .isTrue same =>
      if named : name = name' ∧ path = path' then .isTrue (by simp [named, same])
      else .isFalse (fun equal => named (by simp_all))
  | .file name path content executable, .file name' path' content' executable' =>
    if same : name = name' ∧ path = path' ∧ content = content' ∧ executable = executable' then
      .isTrue (by simp [same])
    else .isFalse (by simpa using same)
  | .folder .., .file .. => .isFalse (by simp)
  | .file .., .folder .. => .isFalse (by simp)

def decEqChildren : (first second : List (String × Node)) → Decidable (first = second)
  | [], [] => .isTrue rfl
  | [], _ :: _ => .isFalse (by simp)
  | _ :: _, [] => .isFalse (by simp)
  | (key, node) :: rest, (key', node') :: rest' =>
    match decEq node node' with
    | .isFalse differ => .isFalse (by simp [differ])
    | .isTrue same =>
      match decEqChildren rest rest' with
      | .isFalse differ => .isFalse (by simp [differ])
      | .isTrue sameRest =>
        if sameKey : key = key' then .isTrue (by simp [sameKey, same, sameRest])
        else .isFalse (by simp [sameKey])
end

instance : DecidableEq Node := decEq

end Node
end TreeShell
