import TreeShell.Json.Reader
import TreeShell.Text.Utf8
import TreeShell.Tree.FileTree

/-! Tree documents. A node is written as one JSON object; it is read back from any
object with the members that its type needs, in any order and among others. -/

namespace TreeShell

namespace Node

mutual
def toJson : Node → Json
  | .folder name path children =>
    .object [("name", .string name), ("path", .string path), ("type", .string "folder"),
      ("children", .object (childrenToJson children))]
  | .file name path content executable =>
    .object [("name", .string name), ("path", .string path), ("type", .string "file"),
      ("data", .string content), ("executable", .bool executable)]

def childrenToJson : List (String × Node) → List (String × Json)
  | [] => []
  | (key, child) :: rest => (key, child.toJson) :: childrenToJson rest
end

/-- A member of a node's object, by what it says. Children are `none` inside where
they cannot be read, which matters only if the node is a folder. -/
inductive Part where
  | name (value : Json)
  | path (value : Json)
  | type (value : Json)
  | children (entries : Option (List (String × Node)))
  | content (value : Json)
  | executable (value : Json)
  | other

def atMostOne? (choose : Part → Option α) (parts : List Part) : Option (Option α) :=
  match parts.filterMap choose with
  | [] => some none
  | [only] => some (some only)
  | _ => none

def exactlyOne? (choose : Part → Option α) (parts : List Part) : Option α :=
  match parts.filterMap choose with
  | [only] => some only
  | _ => none

def text? : Json → Option String
  | .string value => some value
  | _ => none

def flag? : Json → Option Bool
  | .bool value => some value
  | _ => none

def folderType? : Json → Option Bool
  | .string "folder" => some true
  | .string "file" => some false
  | .number (.integer 0) => some true
  | .number (.integer 1) => some false
  | _ => none

def ofParts? (parts : List Part) : Option Node := do
  let name ← text? (← exactlyOne? (fun | .name value => some value | _ => none) parts)
  let path ← text? (← exactlyOne? (fun | .path value => some value | _ => none) parts)
  let type ← exactlyOne? (fun | .type value => some value | _ => none) parts
  if ← folderType? type then
    match ← atMostOne? (fun | .children entries => some entries | _ => none) parts with
    | none => some (.folder name path [])
    | some entries => some (.folder name path (Children.collect (← entries)))
  else
    let content ← atMostOne? (fun | .content value => some value | _ => none) parts
    let executable ← atMostOne? (fun | .executable value => some value | _ => none) parts
    some (.file name path (← text? (content.getD (.string "")))
      (← flag? (executable.getD (.bool false))))

mutual
def ofJson? : Json → Option Node
  | .object members => ofParts? (parts members)
  | _ => none

def parts : List (String × Json) → List Part
  | [] => []
  | (key, value) :: rest =>
    (if key == "name" then .name value
    else if key == "path" then .path value
    else if key == "type" then .type value
    else if key == "children" then .children (childrenOfJson? value)
    else if key == "data" || key == "content" then .content value
    else if key == "executable" then .executable value
    else .other) :: parts rest

def childrenOfJson? : Json → Option (List (String × Node))
  | .object members => entriesOfJson? members
  | _ => none

def entriesOfJson? : List (String × Json) → Option (List (String × Node))
  | [] => some []
  | (key, value) :: rest =>
    match ofJson? value, entriesOfJson? rest with
    | some child, some others => some ((key, child) :: others)
    | _, _ => none
end

def Part.Ordered : Part → Prop
  | .children (some entries) => ∀ entry ∈ entries, entry.2.Ordered
  | _ => True

theorem atMostOne?_mem {choose : Part → Option α} {parts : List Part} {found : α}
    (one : atMostOne? choose parts = some (some found)) :
    ∃ part ∈ parts, choose part = some found := by
  unfold atMostOne? at one
  split at one
  · simp at one
  · rename_i only chosen
    cases Option.some.inj (Option.some.inj one)
    exact List.mem_filterMap.mp (chosen ▸ List.mem_singleton_self _)
  · simp at one

theorem ordered_ofParts? {parts : List Part} {node : Node}
    (ordered : ∀ part ∈ parts, part.Ordered) (read : ofParts? parts = some node) :
    node.Ordered := by
  simp only [ofParts?, Option.bind_eq_bind, Option.bind_eq_some_iff] at read
  obtain ⟨_, _, name, _, _, _, path, _, _, _, folder, _, read⟩ := read
  cases folder with
  | false =>
    simp only [Bool.false_eq_true, if_false, Option.bind_eq_some_iff] at read
    obtain ⟨_, _, _, _, _, _, _, _, same⟩ := read
    cases Option.some.inj same
    trivial
  | true =>
    simp only [if_true, Option.bind_eq_some_iff] at read
    obtain ⟨found, one, read⟩ := read
    cases found with
    | none =>
      cases Option.some.inj read
      exact ordered_folder_iff.mpr ⟨Children.ascending_collect [], by simp⟩
    | some entries =>
      simp only [Option.bind_eq_some_iff] at read
      obtain ⟨entries, rfl, same⟩ := read
      cases Option.some.inj same
      obtain ⟨part, member, chosen⟩ := atMostOne?_mem one
      cases part with
      | children inside =>
        cases Option.some.inj chosen
        exact ordered_folder_iff.mpr ⟨Children.ascending_collect _, fun entry found =>
          ordered _ member entry (Children.mem_collect found)⟩
      | _ => simp at chosen

mutual
theorem ordered_ofJson? : (value : Json) → ∀ {node : Node},
    ofJson? value = some node → node.Ordered
  | .object members, node, read => ordered_ofParts? (ordered_parts members) read
  | .null, _, read | .bool _, _, read | .number _, _, read | .string _, _, read
  | .array _, _, read => by simp [ofJson?] at read

theorem ordered_parts : (members : List (String × Json)) → ∀ part ∈ parts members, part.Ordered
  | [] => by simp [parts]
  | (key, value) :: rest => by
    intro part member
    simp only [parts, List.mem_cons] at member
    rcases member with rfl | later
    · repeat' split
      all_goals first | trivial | skip
      cases read : childrenOfJson? value with
      | none => trivial
      | some entries => exact ordered_childrenOfJson? value read
    · exact ordered_parts rest part later

theorem ordered_childrenOfJson? : (value : Json) → ∀ {entries : List (String × Node)},
    childrenOfJson? value = some entries → ∀ entry ∈ entries, entry.2.Ordered
  | .object members, _, read => ordered_entriesOfJson? members read
  | .null, _, read | .bool _, _, read | .number _, _, read | .string _, _, read
  | .array _, _, read => by simp [childrenOfJson?] at read

theorem ordered_entriesOfJson? : (members : List (String × Json)) →
    ∀ {entries : List (String × Node)}, entriesOfJson? members = some entries →
      ∀ entry ∈ entries, entry.2.Ordered
  | [], _, read => by
    cases Option.some.inj read
    simp
  | (key, value) :: rest, entries, read => by
    simp only [entriesOfJson?] at read
    split at read
    · rename_i child others first later
      cases Option.some.inj read
      intro entry member
      rcases List.mem_cons.mp member with rfl | inside
      · exact ordered_ofJson? value first
      · exact ordered_entriesOfJson? rest later entry inside
    · simp at read
end

end Node

/-- What is wrong with a tree document: it is not one, or its tree has a fault. -/
inductive DocumentError where
  | malformed
  | invalid (fault : TreeFault)
deriving DecidableEq

namespace FileTree

def ofJson (value : Json) : Except DocumentError FileTree :=
  match read : Node.ofJson? value with
  | none => .error .malformed
  | some root => (ofNode root (Node.ordered_ofJson? value read)).mapError .invalid

def ofDocument (document : String) : Except DocumentError FileTree :=
  match Json.ofText? document with
  | none => .error .malformed
  | some value => ofJson value

def ofBytes (document : List UInt8) : Except DocumentError FileTree :=
  match Text.Utf8.decode? document with
  | none => .error .malformed
  | some text => ofDocument text

def toDocument (tree : FileTree) : String :=
  tree.root.toJson.toPrettyText

end FileTree
end TreeShell
