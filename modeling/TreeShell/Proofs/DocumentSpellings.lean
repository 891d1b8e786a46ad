import Mathlib.Data.List.Perm.Basic
import TreeShell.Proofs.ChildInsertion
import TreeShell.Proofs.JsonReading
import TreeShell.Proofs.Utf8Encoding
import TreeShell.Tree.Document

/-! Documents that spell a tree. The members of an object come in any order, among others
that say nothing about a node, and a member is left out at will where it says what is taken
for granted. The reader asks what the members are about and never where they stand, so it
reads each spelling as the tree that is spelt. -/

namespace TreeShell
namespace Node

/-- The names of members that say something about a node. -/
def memberNames : List String :=
  ["name", "path", "type", "children", "data", "content", "executable"]

/-- A value beside what is said about a node. -/
inductive Remark : Json → Prop where
  | null : Remark .null
  | bool (value : Bool) : Remark (.bool value)
  | string (text : String) : Remark (.string text)
  | strings (texts : List String) : Remark (.array (texts.map .string))

def Remarks (members : List (String × Json)) : Prop :=
  ∀ member ∈ members, member.1 ∉ memberNames ∧ Remark member.2

private theorem remarks_nil : Remarks [] := by
  simp [Remarks]

/-- A member that is left out at will where it says what is taken for granted. -/
inductive Stated (granted : Prop) (member : String × Json) : List (String × Json) → Prop where
  | said : Stated granted member [member]
  | omitted (holds : granted) : Stated granted member []

mutual
/-- The objects that spell a node. -/
inductive Spells : Node → Json → Prop where
  | folder {name path : String} {children : List (String × Node)}
      {members entries said remarks : List (String × Json)} (inside : ChildrenSpell children entries)
      (stated : Stated (children = []) ("children", .object entries) said) (others : Remarks remarks)
      (order : members.Perm ([("name", .string name), ("path", .string path),
        ("type", .string "folder")] ++ said ++ remarks)) :
      Spells (.folder name path children) (.object members)
  | file {name path content key : String} {executable : Bool}
      {members text flag remarks : List (String × Json)} (keyed : key = "data" ∨ key = "content")
      (statedText : Stated (content = "") (key, .string content) text)
      (statedFlag : Stated (executable = false) ("executable", .bool executable) flag)
      (others : Remarks remarks)
      (order : members.Perm ([("name", .string name), ("path", .string path),
        ("type", .string "file")] ++ text ++ flag ++ remarks)) :
      Spells (.file name path content executable) (.object members)

/-- The members that spell children under their names. -/
inductive ChildrenSpell : List (String × Node) → List (String × Json) → Prop where
  | nil : ChildrenSpell [] []
  | cons {key : String} {child : Node} {children : List (String × Node)} {value : Json}
      {members entries : List (String × Json)} (first : Spells child value)
      (rest : ChildrenSpell children entries) (order : members.Perm ((key, value) :: entries)) :
      ChildrenSpell ((key, child) :: children) members
end

mutual
theorem spells_toJson : (node : Node) → node.Spells node.toJson
  | .folder _ _ children => .folder (childrenSpell_childrenToJson children) .said remarks_nil (.refl _)
  | .file .. => .file (.inl rfl) .said .said remarks_nil (.refl _)

theorem childrenSpell_childrenToJson : (children : List (String × Node)) →
    ChildrenSpell children (childrenToJson children)
  | [] => .nil
  | (_, child) :: rest =>
    .cons (spells_toJson child) (childrenSpell_childrenToJson rest) (.refl _)
end

mutual
theorem numberless_toJson : (node : Node) → node.toJson.Numberless
  | .folder _ _ children => by
    have inside := numberless_childrenToJson children
    simpa [toJson, Json.Numberless, Json.MembersNumberless] using inside
  | .file .. => by simp [toJson, Json.Numberless, Json.MembersNumberless]

theorem numberless_childrenToJson : (children : List (String × Node)) →
    Json.MembersNumberless (childrenToJson children)
  | [] => trivial
  | (_, child) :: rest => ⟨numberless_toJson child, numberless_childrenToJson rest⟩
end

/-! ### Reading a node's members -/

private theorem parts_append (first second : List (String × Json)) :
    parts (first ++ second) = parts first ++ parts second := by
  induction first with
  | nil => rfl
  | cons member rest ih =>
    obtain ⟨key, value⟩ := member
    rw [List.cons_append, parts, parts, ih, List.cons_append]

private theorem parts_of_perm {first second : List (String × Json)} (same : first.Perm second) :
    (parts first).Perm (parts second) := by
  induction same with
  | nil => exact .refl _
  | cons member _ ih => exact ih.cons _
  | swap => exact .swap ..
  | trans _ _ ih later => exact ih.trans later

private theorem parts_remarks {remarks : List (String × Json)} (others : Remarks remarks) :
    ∀ part ∈ parts remarks, part = .other := by
  induction remarks with
  | nil => nofun
  | cons member rest ih =>
    obtain ⟨key, value⟩ := member
    obtain ⟨⟨unknown, _⟩, later⟩ := List.forall_mem_cons.mp others
    simp only [memberNames, List.mem_cons, List.not_mem_nil, or_false, not_or] at unknown
    have ignored : parts ((key, value) :: rest) = .other :: parts rest := by
      simp [parts, unknown]
    rw [ignored]
    exact List.forall_mem_cons.mpr ⟨rfl, ih later⟩

private theorem eq_or_many_of_perm {first second : List α} (same : first.Perm second) :
    first = second ∨ ∃ one two rest three four later,
      first = one :: two :: rest ∧ second = three :: four :: later := by
  match first, second, same with
  | [], _, same => exact .inl same.nil_eq
  | [_], _, same => exact .inl (List.singleton_perm.mp same)
  | _ :: _ :: _, [], same => cases same.length_eq
  | _ :: _ :: _, [_], same => cases same.length_eq
  | _ :: _ :: _, _ :: _ :: _, _ => exact .inr ⟨_, _, _, _, _, _, rfl, rfl⟩

section

variable {members known others : List Part} (same : members.Perm (known ++ others))
  (other : ∀ part ∈ others, part = .other)

include same other

private theorem filterMap_perm {choose : Part → Option α} (ignored : choose .other = none) :
    (members.filterMap choose).Perm (known.filterMap choose) := by
  have nothing : others.filterMap choose = [] :=
    List.filterMap_eq_nil_iff.mpr fun part member => other part member ▸ ignored
  have chosen := same.filterMap choose
  rwa [List.filterMap_append, nothing, List.append_nil] at chosen

private theorem exactlyOne?_of_perm {choose : Part → Option α} (ignored : choose .other = none) :
    exactlyOne? choose members = exactlyOne? choose known := by
  have chosen := filterMap_perm same other ignored
  unfold exactlyOne?
  rcases eq_or_many_of_perm chosen with equal | ⟨_, _, _, _, _, _, many, more⟩
  · rw [equal]
  · rw [many, more]

private theorem atMostOne?_of_perm {choose : Part → Option α} (ignored : choose .other = none) :
    atMostOne? choose members = atMostOne? choose known := by
  have chosen := filterMap_perm same other ignored
  unfold atMostOne?
  rcases eq_or_many_of_perm chosen with equal | ⟨_, _, _, _, _, _, many, more⟩
  · rw [equal]
  · rw [many, more]

private theorem ofParts?_of_perm : ofParts? members = ofParts? known := by
  unfold ofParts?
  simp only [exactlyOne?_of_perm same other, atMostOne?_of_perm same other]

end

theorem ofJson?_of_perm {members known remarks : List (String × Json)}
    (order : members.Perm (known ++ remarks)) (others : Remarks remarks) :
    ofJson? (.object members) = ofParts? (parts known) := by
  have same := parts_of_perm order
  rw [parts_append] at same
  exact ofParts?_of_perm same (parts_remarks others)

theorem entriesOfJson?_eq_some_iff {members : List (String × Json)}
    {entries : List (String × Node)} :
    entriesOfJson? members = some entries ↔
      List.Forall₂ (fun member entry => member.1 = entry.1 ∧ ofJson? member.2 = some entry.2)
        members entries := by
  induction members generalizing entries with
  | nil => cases entries <;> simp [entriesOfJson?]
  | cons member rest ih =>
    obtain ⟨key, value⟩ := member
    rw [entriesOfJson?, List.forall₂_cons_left_iff]
    split
    · rename_i child others first later
      constructor
      · intro read
        cases Option.some.inj read
        exact ⟨_, _, ⟨rfl, first⟩, ih.mp later, rfl⟩
      · rintro ⟨entry, entries, ⟨rfl, found⟩, read, rfl⟩
        cases first.symm.trans found
        cases later.symm.trans (ih.mpr read)
        rfl
    · rename_i unread
      constructor
      · intro read
        cases read
      · rintro ⟨entry, entries, ⟨rfl, found⟩, read, rfl⟩
        exact (unread _ _ found (ih.mpr read)).elim

private theorem parts_stated {granted : Prop} {member : String × Json} {said : List (String × Json)}
    {part : Part} (means : parts [member] = [part]) (stated : Stated granted member said) :
    parts said = [part] ∨ parts said = [] ∧ granted := by
  cases stated with
  | said => exact .inl means
  | omitted holds => exact .inr ⟨rfl, holds⟩

private theorem parts_children {children found : List (String × Node)}
    {entries said : List (String × Json)} (read : entriesOfJson? entries = some found)
    (stated : Stated (children = []) ("children", .object entries) said) :
    parts said = [.children (some found)] ∨ parts said = [] ∧ children = [] := by
  refine parts_stated ?_ stated
  rw [← read]
  rfl

private theorem parts_text {key content : String} {text : List (String × Json)}
    (keyed : key = "data" ∨ key = "content")
    (stated : Stated (content = "") (key, .string content) text) :
    parts text = [.content (.string content)] ∨ parts text = [] ∧ content = "" := by
  refine parts_stated ?_ stated
  rcases keyed with rfl | rfl
  all_goals rfl

private theorem parts_flag {executable : Bool} {flag : List (String × Json)}
    (stated : Stated (executable = false) ("executable", .bool executable) flag) :
    parts flag = [.executable (.bool executable)] ∨ parts flag = [] ∧ executable = false :=
  parts_stated rfl stated

mutual
theorem ofJson?_of_spells : (node : Node) → node.Ordered → ∀ {value : Json},
    node.Spells value → ofJson? value = some node
  | .folder name path children, ordered, _, .folder inside stated others order => by
    obtain ⟨found, read, same⟩ := entriesOfJson?_of_spell children ordered.2 inside
    have collected := Children.collect_of_perm ordered.1 same
    rw [ofJson?_of_perm order others, parts_append]
    rcases parts_children read stated with listed | ⟨listed, rfl⟩
    · rw [listed, ← collected]
      rfl
    · rw [listed]
      rfl
  | .file name path content executable, _, _, .file keyed statedText statedFlag others order => by
    rw [ofJson?_of_perm order others, parts_append, parts_append]
    rcases parts_text keyed statedText with text | ⟨text, rfl⟩
    all_goals
      rcases parts_flag statedFlag with flag | ⟨flag, rfl⟩
      all_goals
        rw [text, flag]
        rfl

theorem entriesOfJson?_of_spell : (children : List (String × Node)) → ChildrenOrdered children →
    ∀ {members : List (String × Json)}, ChildrenSpell children members →
      ∃ found, entriesOfJson? members = some found ∧ found.Perm children
  | [], _, _, .nil => ⟨[], rfl, .refl _⟩
  | (key, child) :: rest, ordered, _, @ChildrenSpell.cons _ _ _ value _ entries first later order => by
    have read := ofJson?_of_spells child ordered.1 first
    obtain ⟨found, readLater, same⟩ := entriesOfJson?_of_spell rest ordered.2 later
    have both : List.Forall₂ (fun member entry => member.1 = entry.1 ∧ ofJson? member.2 = some entry.2)
        ((key, value) :: entries) ((key, child) :: found) :=
      .cons ⟨rfl, read⟩ (entriesOfJson?_eq_some_iff.mp readLater)
    obtain ⟨entries, matched, moved⟩ := List.perm_comp_forall₂ order both
    exact ⟨entries, entriesOfJson?_eq_some_iff.mpr matched, moved.trans (same.cons _)⟩
end

/-! ### Depth -/

theorem Remark.nesting_le {value : Json} (remark : Remark value) : value.nesting ≤ 1 := by
  cases remark with
  | strings texts =>
    have flat : Json.itemNesting (texts.map .string) = 0 := by
      induction texts with
      | nil => rfl
      | cons text rest ih => simp [Json.itemNesting, Json.nesting, ih]
    exact Nat.le_of_eq (congrArg (· + 1) flat)
  | _ => exact Nat.zero_le _

theorem nesting_object_le {members known remarks : List (String × Json)} {bound : Nat}
    (order : members.Perm (known ++ remarks)) (others : Remarks remarks) (room : 1 ≤ bound)
    (inside : Json.memberNesting known ≤ bound) : (Json.object members).nesting ≤ bound + 1 := by
  refine Nat.succ_le_succ (Json.memberNesting_le_iff.mpr fun member present => ?_)
  rcases List.mem_append.mp (order.mem_iff.mp present) with listed | remark
  · exact Json.memberNesting_le_iff.mp inside member listed
  · exact Nat.le_trans (others member remark).2.nesting_le room

theorem le_maxDepth (node : Node) (depth : Nat) : depth ≤ (node.statsAt depth).maxDepth := by
  cases node with
  | folder => exact Nat.le_max_left ..
  | file => exact Nat.le_refl _

mutual
/-- However a node is spelt, two objects open for each step down to a node below it, and two
at most for that node: its own and that of its children, or its own and an array beside. -/
theorem nesting_of_spells : (node : Node) → ∀ {value : Json}, node.Spells value →
    ∀ depth bound, (node.statsAt depth).maxDepth ≤ bound →
      value.nesting ≤ 2 * (bound - depth) + 2
  | .folder name path children, _, .folder inside stated others order, depth, bound, deepest => by
    have deeper := (Nat.max_le.mp deepest).2
    have below := nesting_of_childrenSpell children inside (depth + 1) bound deeper
    rw [Nat.add_sub_add_right] at below
    refine nesting_object_le order others (by omega) ?_
    cases stated with
    | said => simp [Json.memberNesting, Json.nesting, below]
    | omitted => simp [Json.memberNesting, Json.nesting]
  | .file name path content executable, _, .file keyed statedText statedFlag others order,
      depth, bound, _ => by
    refine nesting_object_le order others (by omega) ?_
    cases statedText <;> cases statedFlag
    all_goals simp [Json.memberNesting, Json.nesting]

theorem nesting_of_childrenSpell : (children : List (String × Node)) →
    ∀ {members : List (String × Json)}, ChildrenSpell children members →
      ∀ depth bound, (childrenStatsAt depth children).maxDepth ≤ bound →
        Json.memberNesting members ≤ 2 * (bound + 1 - depth)
  | [], _, .nil, _, _, _ => Nat.zero_le _
  | (key, child) :: rest, _, @ChildrenSpell.cons _ _ _ value _ _ first later order,
      depth, bound, deepest => by
    obtain ⟨firstDeepest, laterDeepest⟩ := Nat.max_le.mp deepest
    have firstNesting := nesting_of_spells child first depth bound firstDeepest
    have laterNesting := nesting_of_childrenSpell rest later depth bound laterDeepest
    have fits : depth ≤ bound := Nat.le_trans (child.le_maxDepth depth) firstDeepest
    have firstFits : value.nesting ≤ 2 * (bound + 1 - depth) := by omega
    refine Json.memberNesting_le_iff.mpr fun member present => ?_
    rcases List.mem_cons.mp (order.mem_iff.mp present) with rfl | listed
    · exact firstFits
    · exact Json.memberNesting_le_iff.mp laterNesting member listed
end

end Node

namespace FileTree

theorem ofJson_of_spells {tree : FileTree} {value : Json} (spelt : tree.root.Spells value) :
    ofJson value = .ok tree := by
  have known := Node.ofJson?_of_spells tree.root tree.ordered spelt
  unfold ofJson
  split
  · rename_i unread
    rw [known] at unread
    cases unread
  · rename_i root read
    obtain rfl : tree.root = root := Option.some.inj (known.symm.trans read)
    rw [ofNode_root]
    rfl

/-- The texts that spell a tree as a document. -/
def SpelledBy (tree : FileTree) (document : String) : Prop :=
  ∃ value, tree.root.Spells value ∧ Json.Written document.toList value.tokens

theorem spelledBy_toDocument (tree : FileTree) : tree.SpelledBy tree.toDocument :=
  ⟨_, tree.root.spells_toJson, Json.written_toPrettyText (Node.numberless_toJson tree.root)⟩

/-- A tree that is at most 60 deep is read from every document that spells it, so all of
these load as the same tree. -/
theorem spelled_documents_load (tree : FileTree) (shallow : tree.stats.maxDepth ≤ 60) :
    (∀ document, tree.SpelledBy document →
      ofDocument document = .ok tree ∧ ofBytes (Text.Utf8.encode document) = .ok tree) ∧
    ∀ first second, tree.SpelledBy first → tree.SpelledBy second →
      ofDocument first = ofDocument second := by
  have loads (document : String) (spelled : tree.SpelledBy document) :
      ofDocument document = .ok tree := by
    obtain ⟨value, spelt, written⟩ := spelled
    have nested := Node.nesting_of_spells tree.root spelt 0 60 shallow
    have fits : value.nesting < Json.nestingLimit := Nat.lt_of_le_of_lt nested (by decide)
    rw [ofDocument, Json.ofText?_of_written written, if_pos fits]
    exact ofJson_of_spells spelt
  refine ⟨fun document spelled => ⟨loads document spelled, ?_⟩, fun first second one two => ?_⟩
  · rw [ofBytes, Text.Utf8.decode?_encode]
    exact loads document spelled
  · rw [loads first one, loads second two]

def emptyFolder : Node :=
  .folder "empty" "/Home/empty" []

def note : Node :=
  .file "note" "/Home/note" "Hi" false

def notebook : FileTree where
  root := .folder "Home" "/Home" [("empty", emptyFolder), ("note", note)]
  ordered := by
    have ascending : Children.Ascending [("empty", emptyFolder), ("note", note)] :=
      Children.ascending_cons.mpr ⟨by decide, List.pairwise_singleton ..⟩
    exact ⟨ascending, ⟨.nil, trivial⟩, trivial, trivial⟩
  wellFormed := Node.rootFault?_eq_none_iff.mp (by decide)

def emptyFolderBackwards : Json :=
  .object [("name", .string "empty"), ("path", .string "/Home/empty"),
    ("type", .string "folder")].reverse

def noteBackwards : Json :=
  .object [("name", .string "note"), ("path", .string "/Home/note"), ("type", .string "file"),
    ("content", .string "Hi")].reverse

/-- The notebook with its members the other way round, without what may be left out and
with the names of its children beside them. -/
def notebookBackwards : Json :=
  .object [("name", .string "Home"), ("path", .string "/Home"), ("type", .string "folder"),
    ("children", .object [("note", noteBackwards), ("empty", emptyFolderBackwards)]),
    ("childrenNames", .array (["empty", "note"].map .string))].reverse

theorem notebook_spells_backwards : notebook.root.Spells notebookBackwards := by
  have first : emptyFolder.Spells emptyFolderBackwards :=
    .folder .nil (.omitted rfl) Node.remarks_nil (List.reverse_perm _)
  have second : note.Spells noteBackwards :=
    .file (.inr rfl) .said (.omitted rfl) Node.remarks_nil (List.reverse_perm _)
  have names : Node.Remarks [("childrenNames", .array (["empty", "note"].map .string))] :=
    List.forall_mem_singleton.mpr ⟨by decide, .strings _⟩
  have inside : Node.ChildrenSpell [("empty", emptyFolder), ("note", note)]
      [("note", noteBackwards), ("empty", emptyFolderBackwards)] :=
    .cons first (.cons second .nil (.refl _)) (.swap ..)
  exact .folder inside .said names (List.reverse_perm _)

theorem notebook_loads_backwards : notebook.stats.maxDepth ≤ 60 ∧
    notebook.SpelledBy notebookBackwards.toPrettyText ∧
    ofDocument notebookBackwards.toPrettyText = .ok notebook ∧
    ofDocument notebookBackwards.toPrettyText = ofDocument notebook.toDocument := by
  have shallow : notebook.stats.maxDepth ≤ 60 := by decide
  have numberless : notebookBackwards.Numberless := by
    simp [notebookBackwards, emptyFolderBackwards, noteBackwards, Json.Numberless,
      Json.MembersNumberless, Json.ItemsNumberless]
  have backwards : notebook.SpelledBy notebookBackwards.toPrettyText :=
    ⟨_, notebook_spells_backwards, Json.written_toPrettyText numberless⟩
  have loads := spelled_documents_load notebook shallow
  exact ⟨shallow, backwards, (loads.1 _ backwards).1, loads.2 _ _ backwards notebook.spelledBy_toDocument⟩

end FileTree
end TreeShell
