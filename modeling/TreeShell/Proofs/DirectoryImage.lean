import TreeShell.Proofs.FolderGrowth

/-! The tree of a directory, by recursion on the directory. Building walks through it and puts
one thing after another into a tree, and comes to the same tree: a walk that follows no links
meets what the recursion keeps, and each part of the walk grows the folder that it belongs to. -/

namespace TreeShell

/-- Whether an entry of this name is kept at a depth below the source. -/
def WalkRules.keeps (rules : WalkRules) (depth : Nat) (name : String) : Bool :=
  rules.maxDepth.all (depth ≤ ·) && !rules.ignore.contains name

namespace Item

mutual
/-- What an item becomes at a depth, in the folder at `parent`. A link becomes nothing. -/
def image? (rules : WalkRules) (depth : Nat) (parent name : String) : Item → Option Node
  | .directory entries =>
    some (.folderUnder parent name (images rules (depth + 1) (Path.join parent name) entries))
  | .file bytes mode =>
    some (.fileUnder parent name (Text.Utf8.decodeLossy bytes) (mode &&& 0o111 != 0))
  | .link _ => none

/-- What the kept entries of a directory become, each at its own name. -/
def images (rules : WalkRules) (depth : Nat) (parent : String) : List (String × Item) → List Node
  | [] => []
  | (name, item) :: rest =>
    (if rules.keeps depth name then (item.image? rules depth parent name).toList else []) ++
      images rules depth parent rest
end

mutual
/-- At every depth, entries have names that differ and that a path can hold. -/
def Named : Item → Prop
  | .directory entries => (entries.map Prod.fst).Nodup ∧ EntriesNamed entries
  | .file .. => True
  | .link _ => True

def EntriesNamed : List (String × Item) → Prop
  | [] => True
  | (name, item) :: rest => Path.IsName name ∧ item.Named ∧ EntriesNamed rest
end

variable {rules : WalkRules} {depth : Nat} {parent name : String} {item : Item} {node : Node}
  {entries : List (String × Item)}

/-- The folder that the kept entries of a directory make. -/
def imageFolder (rules : WalkRules) (depth : Nat) (name path : String)
    (entries : List (String × Item)) : Node :=
  .folder name path
    (Children.collect ((images rules depth path entries).map fun child => (child.name, child)))

theorem name_of_image? (becomes : item.image? rules depth parent name = some node) :
    node.name = name ∧ node.path = Path.join parent name := by
  cases item with
  | directory entries =>
    cases Option.some.inj becomes
    exact ⟨rfl, rfl⟩
  | file bytes mode =>
    cases Option.some.inj becomes
    exact ⟨rfl, rfl⟩
  | link target => cases becomes

private theorem mem_images_iff : node ∈ images rules depth parent entries ↔
    ∃ entry ∈ entries, rules.keeps depth entry.1 = true ∧
      entry.2.image? rules depth parent entry.1 = some node := by
  induction entries with
  | nil => simp [images]
  | cons entry rest ih =>
    obtain ⟨name, item⟩ := entry
    by_cases kept : rules.keeps depth name = true
    · simp [images, ih, kept, Option.mem_toList]
    · simp [images, ih, kept]

theorem images_names_sublist (rules : WalkRules) (depth : Nat) (parent : String)
    (entries : List (String × Item)) :
    ((images rules depth parent entries).map Node.name).Sublist (entries.map Prod.fst) := by
  induction entries with
  | nil => exact .slnil
  | cons entry rest ih =>
    obtain ⟨name, item⟩ := entry
    rw [images, List.map_append, List.map_cons]
    split
    · cases becomes : item.image? rules depth parent name with
      | none => exact ih.cons name
      | some node =>
        rw [Option.toList_some, List.map_singleton, (name_of_image? becomes).1]
        exact ih.cons_cons name
    · exact ih.cons name

private theorem images_eq_nil (far : rules.maxDepth.all (depth ≤ ·) = false) :
    images rules depth parent entries = [] := by
  induction entries with
  | nil => rfl
  | cons entry rest ih => simp [images, WalkRules.keeps, far, ih]

theorem lookup_iff_mem (distinct : (entries.map Prod.fst).Nodup) :
    entries.lookup name = some item ↔ (name, item) ∈ entries := by
  constructor
  · intro found
    obtain ⟨before, after, rfl, _⟩ := List.lookup_eq_some_iff.mp found
    exact List.mem_append_right _ List.mem_cons_self
  · intro member
    obtain ⟨before, after, rfl⟩ := List.append_of_mem member
    refine List.lookup_eq_some_iff.mpr ⟨before, after, rfl, fun entry earlier => bne_iff_ne.mpr ?_⟩
    rintro rfl
    rw [List.map_append, List.nodup_append] at distinct
    exact distinct.2.2 _ (List.mem_map_of_mem earlier) _ List.mem_cons_self rfl

/-- A child of an image is what the entry of its name becomes, if that entry is kept. -/
theorem child?_imageFolder_iff {folderName : String} (distinct : (entries.map Prod.fst).Nodup) :
    (imageFolder rules depth folderName parent entries).child? name = some node ↔
      rules.keeps depth name = true ∧ ∃ item, entries.lookup name = some item ∧
        item.image? rules depth parent name = some node := by
  have named := (images_names_sublist rules depth parent entries).nodup distinct
  refine (Children.lookup_collect_iff named).trans ?_
  rw [mem_images_iff]
  constructor
  · rintro ⟨⟨entry, member, kept, becomes⟩, rfl⟩
    rw [(name_of_image? becomes).1]
    exact ⟨kept, entry.2, (lookup_iff_mem distinct).mpr member, becomes⟩
  · rintro ⟨kept, item, there, becomes⟩
    exact ⟨⟨(name, item), (lookup_iff_mem distinct).mp there, kept, becomes⟩,
      (name_of_image? becomes).1⟩

private theorem entriesNamed_iff :
    EntriesNamed entries ↔ ∀ entry ∈ entries, Path.IsName entry.1 ∧ entry.2.Named := by
  induction entries with
  | nil => simp [EntriesNamed]
  | cons entry rest ih =>
    obtain ⟨name, item⟩ := entry
    simp [EntriesNamed, ih, and_assoc]

theorem keeps_iff : rules.keeps depth name = true ↔
    rules.maxDepth.all (depth ≤ ·) = true ∧ rules.ignores name = false := by
  simp [WalkRules.keeps, WalkRules.ignores]

private theorem all_of_deeper {later : Nat} (deeper : rules.maxDepth.all (later ≤ ·) = true)
    (above : depth ≤ later) : rules.maxDepth.all (depth ≤ ·) = true := by
  cases bounded : rules.maxDepth with
  | none => rfl
  | some bound =>
    rw [bounded] at deeper
    exact decide_eq_true (Nat.le_trans above (of_decide_eq_true deeper))

theorem find?_single : (directory entries).find? [name] = some item ↔ entries.lookup name = some item := by
  simp only [find?, entry?, Item.entries]
  cases entries.lookup name with
  | none => rfl
  | some other => rfl

theorem named_of_lookup (named : (directory entries).Named) (found : entries.lookup name = some item) :
    item.Named :=
  (entriesNamed_iff.mp named.2 _ ((lookup_iff_mem named.1).mp found)).2

theorem find?_cons_iff {rest : List String} (further : rest ≠ []) :
    (directory entries).find? (name :: rest) = some item ↔
      ∃ inside, entries.lookup name = some (.directory inside) ∧
        (directory inside).find? rest = some item := by
  simp only [find?, entry?, Item.entries]
  cases entries.lookup name with
  | none => simp
  | some next =>
    cases next with
    | directory inside => simp
    | file bytes mode =>
      cases rest with
      | nil => exact absurd rfl further
      | cons second later => simp [find?, entry?, Item.entries]
    | link target =>
      cases rest with
      | nil => exact absurd rfl further
      | cons second later => simp [find?, entry?, Item.entries]

private theorem descend_imageFolder_cons_iff {folderName : String} {rest : List String} (further : rest ≠ [])
    (distinct : (entries.map Prod.fst).Nodup) :
    (imageFolder rules depth folderName parent entries).descend (name :: rest) = some node ↔
      rules.keeps depth name = true ∧ ∃ inside, entries.lookup name = some (.directory inside) ∧
        (imageFolder rules (depth + 1) name (Path.join parent name) inside).descend rest =
          some node := by
  constructor
  · intro reached
    simp only [Node.descend] at reached
    split at reached
    · cases reached
    · rename_i child found
      obtain ⟨kept, item, there, becomes⟩ := (child?_imageFolder_iff distinct).mp found
      cases item with
      | directory inside =>
        cases Option.some.inj becomes
        exact ⟨kept, inside, there, reached⟩
      | file bytes mode =>
        cases Option.some.inj becomes
        cases rest with
        | nil => exact absurd rfl further
        | cons second later => cases reached
      | link target => cases becomes
  · rintro ⟨kept, inside, there, reached⟩
    have found : (imageFolder rules depth folderName parent entries).child? name =
        some (imageFolder rules (depth + 1) name (Path.join parent name) inside) :=
      (child?_imageFolder_iff distinct).mpr ⟨kept, _, there, rfl⟩
    rw [Node.descend, found]
    exact reached

/-- What stands at some names in an image: what the item at these names becomes, if it is not
too deep and none of the names is ignored. -/
theorem descend_imageFolder_iff {folderName : String} {names : List String}
    (named : (directory entries).Named) :
    (imageFolder rules depth folderName parent entries).descend (names ++ [name]) = some node ↔
      rules.maxDepth.all (depth + names.length ≤ ·) = true ∧
        (∀ other ∈ names ++ [name], rules.ignores other = false) ∧
        ∃ item, (directory entries).find? (names ++ [name]) = some item ∧
          item.image? rules (depth + names.length) (Path.below parent names) name = some node := by
  induction names generalizing entries depth parent folderName with
  | nil =>
    rw [List.nil_append, Node.descend_single, child?_imageFolder_iff named.1, keeps_iff, and_assoc]
    simp only [find?_single, List.forall_mem_singleton]
    rfl
  | cons first rest ih =>
    have further : rest ++ [name] ≠ [] := by simp
    have counted : depth + (first :: rest).length = depth + 1 + rest.length := by
      rw [List.length_cons]
      omega
    rw [List.cons_append, descend_imageFolder_cons_iff further named.1, counted, keeps_iff]
    constructor
    · rintro ⟨⟨_, seen⟩, inside, there, reached⟩
      obtain ⟨near, visible, item, found, becomes⟩ := (ih (named_of_lookup named there)).mp reached
      exact ⟨near, List.forall_mem_cons.mpr ⟨seen, visible⟩, item,
        (find?_cons_iff further).mpr ⟨inside, there, found⟩, becomes⟩
    · rintro ⟨near, visible, item, found, becomes⟩
      obtain ⟨seen, visible⟩ := List.forall_mem_cons.mp visible
      obtain ⟨inside, there, deeper⟩ := (find?_cons_iff further).mp found
      exact ⟨⟨all_of_deeper near (by omega), seen⟩, inside, there,
        (ih (named_of_lookup named there)).mpr ⟨near, visible, item, deeper, becomes⟩⟩

/-- Each child is placed as its folder's path and its name say, and holds only such children. -/
theorem consistent_collected {folderName path : String} {children : List Node}
    (fitting : ∀ child ∈ children, Node.Fits path child.name child ∧ child.Consistent) :
    (Node.folder folderName path
      (Children.collect (children.map fun child => (child.name, child)))).Consistent := by
  refine Node.childrenConsistent_iff.mpr fun entry member => ?_
  obtain ⟨child, inside, rfl⟩ := List.mem_map.mp (Children.mem_collect member)
  exact fitting child inside

mutual
theorem consistent_of_image? : (item : Item) → item.Named → ∀ {depth parent name node},
    item.image? rules depth parent name = some node → node.Consistent
  | .directory entries, named, _, _, _, _, becomes => by
    cases Option.some.inj becomes
    exact consistent_collected (fits_images entries named.2)
  | .file .., _, _, _, _, _, becomes => by
    cases Option.some.inj becomes
    trivial

theorem fits_images : (entries : List (String × Item)) → EntriesNamed entries →
    ∀ {depth parent}, ∀ child ∈ images rules depth parent entries,
      Node.Fits parent child.name child ∧ child.Consistent
  | [], _, _, _, _, member => by cases member
  | (name, item) :: rest, named, depth, parent, child, member => by
    obtain ⟨isName, itemNamed, restNamed⟩ := named
    rw [images, List.mem_append] at member
    rcases member with here | later
    · split at here
      · have becomes := Option.mem_toList.mp here
        obtain ⟨rfl, placed⟩ := name_of_image? becomes
        exact ⟨⟨isName.filled, isName.single, rfl, placed⟩, consistent_of_image? item itemNamed becomes⟩
      · cases here
    · exact fits_images rest restNamed child later
end

def imageRoot (rules : WalkRules) (entries : List (String × Item)) : Node :=
  .rootFolder (images rules 1 Path.root entries)

theorem wellFormed_imageRoot (named : EntriesNamed entries) :
    (imageRoot rules entries).WellFormed where
  path := rfl
  folder := rfl
  consistent := consistent_collected (fits_images entries named)

end Item

namespace WalkRules

variable {rules : WalkRules} {depth : Nat} {name : String}

theorem reaches_eq (deep : rules.maxDepth ≠ some 0) :
    rules.reaches depth = rules.maxDepth.all (depth ≤ ·) := by
  unfold reaches
  cases bounded : rules.maxDepth with
  | none => rfl
  | some bound =>
    have positive : 1 ≤ bound := by
      rcases Nat.eq_zero_or_pos bound with rfl | positive
      · exact absurd bounded deep
      · exact positive
    simp [Nat.max_eq_right positive]

private theorem keeps_of_near (near : rules.maxDepth.all (depth ≤ ·) = true) :
    rules.keeps depth name = !rules.ignores name := by
  simp [keeps, near, ignores]

end WalkRules

namespace Walk
open Builder

variable {rules : WalkRules} {cross : Spot → String → List (Except WalkError Encounter)}
  {source : List String}

theorem grows_unlessIgnored {depth : Nat} {names : List String} {name : String}
    {met : List (Except WalkError Encounter)} {make : String → List Node}
    (near : rules.maxDepth.all (depth ≤ ·) = true) (grows : Grows source met names make) :
    Grows source (unlessIgnored rules name met) names fun parent =>
      if rules.keeps depth name then make parent else [] := by
  rw [WalkRules.keeps_of_near near, unlessIgnored]
  cases rules.ignores name with
  | true => exact .nil
  | false => exact grows

mutual
private theorem grows_item (noLinks : rules.followLinks = false) (deep : rules.maxDepth ≠ some 0) :
    (met : Item) → met.Named → ∀ (spot : Spot) (name : String),
    rules.maxDepth.all (spot.names.length + 1 ≤ ·) = true →
    Grows source (item rules cross spot name met) spot.names fun parent =>
      if rules.keeps (spot.names.length + 1) name then
        (met.image? rules (spot.names.length + 1) parent name).toList else []
  | .directory inside, named, spot, name, near => by
    have distinct := fun path => (Item.images_names_sublist rules (spot.names.length + 2) path inside).nodup
      named.1
    have counted : (spot.below name).names.length = spot.names.length + 1 := by
      simp [Spot.below]
    have behind : Grows source
        (if rules.reaches (spot.names.length + 2) then entries rules cross (spot.below name) inside else [])
        (spot.names ++ [name]) fun path => Item.images rules (spot.names.length + 2) path inside := by
      rw [WalkRules.reaches_eq deep]
      split
      · rename_i nearer
        have met := grows_entries noLinks deep inside named.2 (spot.below name) (by rwa [counted])
        rwa [counted] at met
      · rename_i far
        simp only [Item.images_eq_nil (Bool.eq_false_iff.mpr far)]
        exact .nil
    exact grows_unlessIgnored near (Grows.folder distinct behind)
  | .file bytes mode, _, spot, name, near => grows_unlessIgnored near (.made rfl)
  | .link target, _, spot, name, near => by
    rw [item, noLinks]
    exact grows_unlessIgnored near (.skipped rfl)

theorem grows_entries (noLinks : rules.followLinks = false) (deep : rules.maxDepth ≠ some 0) :
    (inside : List (String × Item)) → Item.EntriesNamed inside → ∀ spot : Spot,
    rules.maxDepth.all (spot.names.length + 1 ≤ ·) = true →
    Grows source (entries rules cross spot inside) spot.names fun parent =>
      Item.images rules (spot.names.length + 1) parent inside
  | [], _, _, _ => .nil
  | (name, met) :: rest, named, spot, near =>
    (grows_item noLinks deep met named.2.1 spot name near).append
      (grows_entries noLinks deep rest named.2.2 spot near)
end

end Walk

namespace Builder

/-- Building from a directory succeeds, and the tree is that of the directory: at some names
below its root there stands what the item at these names becomes, if the names are not more
than the depth allows and none of them is ignored, and nothing else. -/
theorem build_eq_image {builder : Builder} {disk : Disk} {place : List String}
    {entries : List (String × Item)}
    (found : disk.locate builder.source = .ok (place, .directory entries))
    (named : (Item.directory entries).Named) (noLinks : builder.rules.followLinks = false)
    (deep : builder.rules.maxDepth ≠ some 0) :
    ∃ tree, builder.build disk = .ok tree ∧ tree.root = Item.imageRoot builder.rules entries ∧
      ∀ names name node, tree.root.descend (names ++ [name]) = some node ↔
        builder.rules.maxDepth.all (1 + names.length ≤ ·) = true ∧
        (∀ other ∈ names ++ [name], builder.rules.ignores other = false) ∧
        ∃ item, (Item.directory entries).find? (names ++ [name]) = some item ∧
          item.image? builder.rules (1 + names.length) (Path.below Path.root names) name =
            some node := by
  have near : builder.rules.maxDepth.all (0 + 1 ≤ ·) = true := by
    rw [← WalkRules.reaches_eq deep]
    unfold WalkRules.reaches
    split
    · rfl
    · exact decide_eq_true (Nat.le_max_left 1 _)
  let start : { root : Node // root.Ordered } :=
    ⟨Node.rootFolder [], Node.ordered_collected (by simp)⟩
  let spot : Walk.Spot := ⟨[], place, [place]⟩
  have grows : Grows place (disk.walk builder.rules place entries) [] fun parent =>
      Item.images builder.rules 1 parent entries :=
    Walk.grows_entries noLinks deep entries named.2 spot near
  have distinct := (Item.images_names_sublist builder.rules 1 Path.root entries).nodup named.1
  have grown : Node.alter? (Node.addAll? fun parent => Item.images builder.rules 1 parent entries)
      [] start.val = some (Item.imageRoot builder.rules entries) := by
    have collected := Children.insertAll_nil_eq_collect distinct
    exact congrArg (fun entries => some (Node.folder Path.rootName Path.root entries)) collected
  obtain ⟨ordered, walked⟩ := grows start _ grown
  let tree : FileTree := ⟨_, ordered, Item.wellFormed_imageRoot named.2⟩
  have accepted : FileTree.ofNode tree.root ordered = .ok tree := FileTree.ofNode_root ordered
  refine ⟨tree, ?_, rfl, fun names name node => Item.descend_imageFolder_iff named⟩
  simp only [build, found, assemble]
  rw [walked]
  exact congrArg (Except.mapError Failure.invalidTree) accepted

/-- A directory with a script, a link, and a folder that a walk of depth two does not look into. -/
def sampleEntries : List (String × Item) :=
  [(".git", .directory [("HEAD", .file [] 0o644)]),
    ("Docs", .directory [("old", .directory [("plan", .file [] 0o644)])]),
    ("latest", .link "Docs"), ("run", .file [0x68, 0x69, 0xFF] 0o750)]

theorem build_of_sampleEntries :
    let disk : Disk := ⟨.directory [("site", .directory sampleEntries)], []⟩
    let builder : Builder := ⟨"site", ⟨false, [".git"], some 2⟩⟩
    disk.locate builder.source = .ok (["site"], .directory sampleEntries) ∧
      (Item.directory sampleEntries).Named ∧ builder.rules.followLinks = false ∧
      builder.rules.maxDepth ≠ some 0 ∧
      ∃ tree, builder.build disk = .ok tree ∧ tree.root = .rootFolder
        [.folderUnder "/Home" "Docs" [.folderUnder "/Home/Docs" "old" []],
          .fileUnder "/Home" "run" "hi\uFFFD" true] := by
  intro disk builder
  have found : disk.locate builder.source = .ok (["site"], .directory sampleEntries) := by
    have names : Disk.steps builder.source = ["site"] := by decide
    have start : Disk.origin disk.workingDirectory builder.source = [] := by decide
    have reached : disk.travel .reach Disk.linkLimit [] ["site"] =
        .ok (.item ["site"] (.directory sampleEntries)) := rfl
    rw [Disk.locate, Disk.resolve, if_neg (by decide), if_neg (by decide), if_neg (by decide),
      names, start, reached]
  have alone (name : String) (item : Item) (filled : name ≠ "")
      (single : Path.separator ∉ name.toList) (leaf : item.Named) :
      (Item.directory [(name, item)]).Named :=
    ⟨by simp, ⟨filled, single⟩, leaf, trivial⟩
  have named : (Item.directory sampleEntries).Named :=
    ⟨by decide, ⟨by decide, by decide⟩, alone _ _ (by decide) (by decide) trivial,
      ⟨by decide, by decide⟩, alone _ _ (by decide) (by decide)
        (alone _ _ (by decide) (by decide) trivial),
      ⟨by decide, by decide⟩, trivial, ⟨by decide, by decide⟩, trivial, trivial⟩
  have deep : builder.rules.maxDepth ≠ some 0 := by decide
  obtain ⟨tree, built, root, _⟩ := build_eq_image found named rfl deep
  refine ⟨found, named, rfl, deep, tree, built, ?_⟩
  rw [root]
  decide

end Builder
end TreeShell
