import Mathlib.Data.List.Induction
import TreeShell.Proofs.SettingFields

/-! Settings out of layers. A field has the value of the highest layer that gives one, and what the
layers give elsewhere does not matter to it. Only single items of a list, named by their index, are
changed inside of what lies below. -/

namespace TreeShell

section Names

variable {name key : String} {value : α} {entries : List (String × α)}

theorem mem_names_putSetting_iff : key ∈ (putSetting name value entries).map Prod.fst ↔
    key = name ∨ key ∈ entries.map Prod.fst := by
  induction entries with
  | nil => simp [putSetting]
  | cons entry rest ih =>
    obtain ⟨first, present⟩ := entry
    simp only [putSetting]
    split
    · simp
    · split
      · rename_i same
        rw [← eq_of_beq same]
        simp
      · rw [List.map_cons, List.mem_cons, ih, List.map_cons, List.mem_cons]
        exact or_left_comm

theorem putSetting_ne_nil : putSetting name value entries ≠ [] := by
  cases entries with
  | nil => simp [putSetting]
  | cons entry rest =>
    simp only [putSetting]
    split
    · simp
    · split <;> simp

theorem ascending_putSetting (ascending : (entries.map Prod.fst).Pairwise (· < ·)) :
    ((putSetting name value entries).map Prod.fst).Pairwise (· < ·) := by
  induction entries with
  | nil => simp [putSetting]
  | cons entry rest ih =>
    obtain ⟨first, present⟩ := entry
    rw [List.map_cons, List.pairwise_cons] at ascending
    obtain ⟨above, later⟩ := ascending
    simp only [putSetting]
    split
    · rename_i below
      rw [List.map_cons, List.map_cons, List.pairwise_cons, List.pairwise_cons]
      refine ⟨fun other member => ?_, above, later⟩
      rcases List.mem_cons.mp member with rfl | member
      · exact below
      · exact String.lt_trans below (above other member)
    · split
      · rename_i same
        rw [eq_of_beq same, List.map_cons, List.pairwise_cons]
        exact ⟨above, later⟩
      · rename_i notBelow differ
        rw [List.map_cons, List.pairwise_cons]
        refine ⟨fun other member => ?_, ih later⟩
        rcases mem_names_putSetting_iff.mp member with rfl | member
        · apply Children.lt_of_not_lt_of_ne notBelow
          simpa using differ
        · exact above other member

end Names

open Setting

namespace Setting

def isEmptyTable : Setting → Bool
  | .table [] => true
  | _ => false

theorem isEmptyTable_of_filled {members : List (String × Setting)} (filled : members ≠ []) :
    (table members).isEmptyTable = false := by
  cases members with
  | nil => exact absurd rfl filled
  | cons => rfl

private theorem isEmptyTable_mergeMembers (present : Setting) (member : String × Setting)
    (rest : List (String × Setting)) :
    (mergeMembers present (member :: rest)).isEmptyTable = false := by
  induction rest generalizing present member with
  | nil =>
    simp only [mergeMembers]
    exact isEmptyTable_of_filled putSetting_ne_nil
  | cons next rest ih =>
    rw [mergeMembers]
    exact ih _ next

end Setting

namespace Layer

/-- What a layer gives by itself for a path. A table without members is nothing. -/
def given? (path : List String) (layer : Layer) : Option Setting :=
  ((ofLayers [layer]).under path).filter (!·.isEmptyTable)

/-- The highest of several layers that gives something for a path, with what it gives. -/
def highest? (path : List String) (layers : List Layer) : Option (Layer × Setting) :=
  layers.reverse.findSome? fun layer => (layer.given? path).map (layer, ·)

end Layer

namespace Assignment

/-- An assignment to an item of a list, or to something inside of one. -/
def NamesItem (assignment : Assignment) : Prop :=
  ∃ index rest, assignment.steps = .item index :: rest

/-- How what assignments make on their own compares with what they make of something else: they
make nothing, or no more than an empty table, or the same, or less of the members, or items. -/
inductive Alike (itemwise : Prop) (before : Option Setting) : Option Setting → Option Setting → Prop
  | silent : Alike itemwise before none before
  | opened : Alike itemwise before (some (.table [])) (some (before.getD (.table [])))
  | same {setting : Setting} (filled : setting.isEmptyTable = false) :
      Alike itemwise before (some setting) (some setting)
  | tables {own all : List (String × Setting)} (filled : own ≠ [])
      (ascending : (own.map Prod.fst).Pairwise (· < ·))
      (among : own.map Prod.fst ⊆ all.map Prod.fst) :
      Alike itemwise before (some (.table own)) (some (.table all))
  | lists {own all : List Setting} (named : itemwise) :
      Alike itemwise before (some (.list own)) (some (.list all))

variable {itemwise : Prop} {before : Option Setting}

theorem alike_putSetting {own all : List (String × Setting)} (name : String) (first second : Setting)
    (ascending : (own.map Prod.fst).Pairwise (· < ·))
    (among : own.map Prod.fst ⊆ all.map Prod.fst) :
    Alike itemwise before (some (.table (putSetting name first own)))
      (some (.table (putSetting name second all))) := by
  refine .tables putSetting_ne_nil (ascending_putSetting ascending) fun key member => ?_
  exact mem_names_putSetting_iff.mpr ((mem_names_putSetting_iff.mp member).imp_right (among ·))

private theorem alike_mergeMembers {own all : Setting} (member : String × Setting)
    (rest : List (String × Setting)) (ascending : (own.members.map Prod.fst).Pairwise (· < ·))
    (among : own.members.map Prod.fst ⊆ all.members.map Prod.fst) :
    Alike itemwise before (some (mergeMembers own (member :: rest)))
      (some (mergeMembers all (member :: rest))) := by
  induction rest generalizing own all member with
  | nil =>
    simp only [mergeMembers]
    exact alike_putSetting _ _ _ ascending among
  | cons next rest ih =>
    rw [mergeMembers, mergeMembers]
    apply ih
    · exact ascending_putSetting ascending
    · intro key inside
      exact mem_names_putSetting_iff.mpr ((mem_names_putSetting_iff.mp inside).imp_right (among ·))

theorem exists_apply_member (name : String) (steps : List KeyStep) (value : Setting) :
    ∃ key, ∀ present, ∃ inner, apply ⟨.member name :: steps, value⟩ present =
      .table (putSetting key inner (present.getD .absent).members) := by
  cases steps with
  | nil => exact ⟨Text.lowercase name, fun present => ⟨_, rfl⟩⟩
  | cons step steps =>
    refine ⟨name, fun present => ⟨changeAt (putAt ((step :: steps).getLast (by simp)) value)
      (step :: steps).dropLast (((present.getD .absent).members.lookup name).getD .absent), ?_⟩⟩
    simp only [apply, List.getLast?_cons_cons, List.getLast?_eq_some_getLast (List.cons_ne_nil step steps),
      List.dropLast_cons_cons, changeAt]

private theorem exists_apply_item (index : Int) (steps : List KeyStep) (value : Setting) :
    ∃ change, ∀ present, apply ⟨.item index :: steps, value⟩ present =
      .list (changeItem change index (present.getD .absent).items) := by
  cases steps with
  | nil => exact ⟨fun _ => value, fun present => rfl⟩
  | cons step steps =>
    refine ⟨changeAt (putAt ((step :: steps).getLast (by simp)) value) (step :: steps).dropLast,
      fun present => ?_⟩
    simp only [apply, List.getLast?_cons_cons, List.getLast?_eq_some_getLast (List.cons_ne_nil step steps),
      List.dropLast_cons_cons, changeAt]

theorem Alike.put {own all : Option Setting} (alike : Alike itemwise before own all)
    {change : Option Setting → Setting}
    (fills : ∀ present, (change present).isEmptyTable = false)
    (puts : ∀ first second : Option Setting,
      ((first.getD .absent).members.map Prod.fst).Pairwise (· < ·) →
      (first.getD .absent).members.map Prod.fst ⊆ (second.getD .absent).members.map Prod.fst →
        Alike itemwise before (some (change first)) (some (change second))) :
    Alike itemwise before (some (change own)) (some (change all)) := by
  cases alike with
  | silent => exact puts _ _ (by simp [Setting.members]) (by simp [Setting.members])
  | opened => exact puts _ _ (by simp [Setting.members]) (by simp [Setting.members])
  | same => exact .same (fills _)
  | tables _ ascending among => exact puts _ _ ascending among
  | lists => exact puts _ _ (by simp [Setting.members]) (by simp [Setting.members])

theorem Alike.apply {own all : Option Setting} (alike : Alike itemwise before own all)
    {assignment : Assignment} (named : assignment.NamesItem → itemwise) :
    Alike itemwise before (some (assignment.apply own)) (some (assignment.apply all)) := by
  obtain ⟨steps, value⟩ := assignment
  match steps with
  | .member name :: steps =>
    obtain ⟨key, puts⟩ := exists_apply_member name steps value
    refine alike.put (fun present => ?_) fun first second ascending among => ?_
    · obtain ⟨inner, made⟩ := puts present
      rw [made]
      exact isEmptyTable_of_filled putSetting_ne_nil
    · obtain ⟨one, firstMade⟩ := puts first
      obtain ⟨two, secondMade⟩ := puts second
      rw [firstMade, secondMade]
      exact alike_putSetting _ _ _ ascending among
  | .item index :: steps =>
    obtain ⟨change, changes⟩ := exists_apply_item index steps value
    rw [changes, changes]
    exact .lists (named ⟨index, steps, rfl⟩)
  | [] =>
    cases value with
    | table members =>
      cases members with
      | nil =>
        cases alike with
        | silent => exact .opened
        | opened => exact .opened
        | same filled => exact .same filled
        | tables filled ascending among => exact .tables filled ascending among
        | lists given => exact .lists given
      | cons member rest =>
        refine alike.put (fun present => isEmptyTable_mergeMembers _ member rest)
          fun first second ascending among => ?_
        have fromNone (present : Option Setting) :
            (present.getD (.table [])).members = (present.getD .absent).members := by
          cases present <;> rfl
        rw [← fromNone] at ascending among
        rw [← fromNone] at among
        exact alike_mergeMembers member rest ascending among
    | _ => exact .same rfl

theorem alike_applyAll {assignments : List Assignment}
    (named : ∀ one ∈ assignments, one.NamesItem → itemwise) {own all : Option Setting}
    (alike : Alike itemwise before own all) :
    Alike itemwise before (applyAll assignments own) (applyAll assignments all) := by
  induction assignments generalizing own all with
  | nil => exact alike
  | cons assignment rest ih =>
    obtain ⟨first, later⟩ := List.forall_mem_cons.mp named
    exact ih later (alike.apply first)

theorem applyAll_eq_text {assignments : List Assignment} {text : String}
    (alone : applyAll assignments none = some (.text text)) (present : Option Setting) :
    applyAll assignments present = some (.text text) := by
  have alike : Alike True present (applyAll assignments none) (applyAll assignments present) :=
    alike_applyAll (fun _ _ _ => trivial) .silent
  rw [alone] at alike
  generalize applyAll assignments present = made at alike
  cases alike
  rfl

end Assignment

open Assignment

/-- A layer with keys for single items of what is at a path. -/
def Layer.NamesItems (path : List String) (layer : Layer) : Prop :=
  ∃ one ∈ about path layer.assignments, one.NamesItem

section Highest

variable {path : List String} {layers : List Layer}

/-- A layer over others makes at a path what it gives by itself, or leaves what they make. -/
theorem alike_ofLayers (filled : path ≠ []) (through : ThroughTables path) {layer : Layer}
    (tables : ∀ one ∈ layers ++ [layer], one.KeepsTables) :
    Alike (layer.NamesItems path) ((ofLayers layers).under path) ((ofLayers [layer]).under path)
      ((ofLayers (layers ++ [layer])).under path) := by
  have lower : ∀ one ∈ layers, one.KeepsTables := fun one member =>
    tables one (List.mem_append_left _ member)
  have upper : ∀ one ∈ [layer], one.KeepsTables := fun one member =>
    tables one (List.mem_append_right _ member)
  rw [under_ofLayers filled through lower, under_ofLayers filled through upper,
    under_ofLayers filled through tables, List.flatMap_append, applyAll_append]
  exact alike_applyAll (fun one said named =>
    ⟨one, by simpa using said, named⟩) .silent

/-- A layer that gives nothing leaves what others make, or opens a table where there is nothing. -/
theorem under_append_of_silent (filled : path ≠ []) (through : ThroughTables path) {layer : Layer}
    (tables : ∀ one ∈ layers ++ [layer], one.KeepsTables) (silent : layer.given? path = none) :
    (ofLayers (layers ++ [layer])).under path = (ofLayers layers).under path ∨
      (ofLayers layers).under path = none ∧
        (ofLayers (layers ++ [layer])).under path = some (.table []) := by
  have alike := alike_ofLayers filled through tables
  rw [Layer.given?] at silent
  generalize (ofLayers layers).under path = before at alike
  generalize (ofLayers (layers ++ [layer])).under path = all at alike
  generalize (ofLayers [layer]).under path = own at alike silent
  have nothing {given : Setting} (stands : own = some given) : given.isEmptyTable = true := by
    rw [stands, Option.filter_some] at silent
    simpa using silent
  cases alike with
  | silent => exact .inl rfl
  | opened =>
    cases before with
    | none => exact .inr ⟨rfl, rfl⟩
    | some given => exact .inl rfl
  | same given => simp [nothing rfl] at given
  | tables given => simp [isEmptyTable_of_filled given] at nothing
  | lists => cases nothing rfl

theorem under_append_of_all_silent (filled : path ≠ []) (through : ThroughTables path)
    {upper : List Layer} (tables : ∀ one ∈ layers ++ upper, one.KeepsTables)
    (silent : ∀ one ∈ upper, one.given? path = none)
    (stands : ((ofLayers layers).under path).isSome) :
    (ofLayers (layers ++ upper)).under path = (ofLayers layers).under path := by
  induction upper using List.reverseRecOn with
  | nil => rw [List.append_nil]
  | append_singleton upper layer ih =>
    rw [← List.append_assoc] at tables ⊢
    obtain ⟨others, last⟩ := List.forall_mem_append.mp silent
    have below := ih (fun one member => tables one (List.mem_append_left _ member)) others
    rcases under_append_of_silent filled through tables (last layer (List.mem_singleton_self layer)) with
      stays | ⟨missing, _⟩
    · exact stays.trans below
    · rw [← below, missing] at stands
      cases stands

theorem Layer.highest?_append (layer : Layer) : Layer.highest? path (layers ++ [layer]) =
    ((layer.given? path).map (layer, ·)).or (Layer.highest? path layers) := by
  rw [highest?, List.reverse_append, List.reverse_singleton, List.singleton_append,
    List.findSome?_cons]
  cases layer.given? path <;> rfl

theorem highest?_eq_none (filled : path ≠ []) (through : ThroughTables path)
    (tables : ∀ layer ∈ layers, layer.KeepsTables) (nothing : (ofLayers layers).under path = none) :
    Layer.highest? path layers = none := by
  induction layers using List.reverseRecOn with
  | nil => rfl
  | append_singleton lower layer ih =>
    have alike := alike_ofLayers filled through tables
    rw [nothing] at alike
    rw [Layer.highest?_append, Layer.given?]
    generalize (ofLayers lower).under path = before at alike ih
    generalize (ofLayers [layer]).under path = own at alike
    cases alike
    exact ih (fun one member => tables one (List.mem_append_left _ member)) rfl

end Highest

/-- A way of reading that takes from a table no more than the name of its only member. -/
def ReadsNames (read : Setting → Option α) : Prop :=
  ∀ members result, read (.table members) = some result →
    ∃ name inner, members = [(name, inner)] ∧ ∀ other, read (.table [(name, other)]) = some result

section Reading

variable {read : Setting → Option α} {result : α} {path : List String} {layers : List Layer}

/-- What is read where a layer gives something is what is read of that, unless only some items
of a list are given. -/
private theorem Assignment.Alike.read_own {itemwise : Prop} {before : Option Setting} {own made : Setting}
    (alike : Alike itemwise before (some own) (some made)) (names : ReadsNames read)
    (gives : own.isEmptyTable = false) (whole : itemwise → ∀ items, read (.list items) = none)
    (reads : read made = some result) : read own = some result := by
  cases alike with
  | opened => exact absurd gives (by simp [isEmptyTable])
  | same => exact reads
  | @tables own all filled ascending among =>
    obtain ⟨name, inner, rfl, any⟩ := names all result reads
    match own, filled with
    | [(first, value)], _ =>
      have same : first = name := by simpa using among
      rw [same]
      exact any value
    | (first, _) :: (second, _) :: _, _ =>
      have firstSame : first = name := by simpa using among (by simp)
      have secondSame : second = name := by simpa using among (by simp)
      rw [firstSame, secondSame, List.map_cons, List.map_cons, List.pairwise_cons] at ascending
      exact absurd (ascending.1 name List.mem_cons_self) (String.lt_irrefl name)
  | lists named => simp [whole named] at reads

/-- What is read at a path is read of what the highest layer gives that gives something there. A
list is read so only if that layer gives it as a whole. -/
theorem read_highest (names : ReadsNames read) (filled : path ≠ []) (through : ThroughTables path)
    (tables : ∀ layer ∈ layers, layer.KeepsTables) {made : Setting}
    (stands : (ofLayers layers).under path = some made) (reads : read made = some result) :
    ∃ layer given, Layer.highest? path layers = some (layer, given) ∧
      ((layer.NamesItems path → ∀ items, read (.list items) = none) → read given = some result) := by
  induction layers using List.reverseRecOn generalizing made with
  | nil =>
    cases path with
    | nil => exact absurd rfl filled
    | cons name names => simp [ofLayers, under, Setting.members] at stands
  | append_singleton lower layer ih =>
    rw [Layer.highest?_append]
    cases gave : layer.given? path with
    | none =>
      rcases under_append_of_silent filled through tables gave with stays | ⟨_, opened⟩
      · have lowerTables : ∀ one ∈ lower, one.KeepsTables := fun one member =>
          tables one (List.mem_append_left _ member)
        exact ih lowerTables (stays.symm.trans stands) reads
      · cases opened.symm.trans stands
        obtain ⟨_, _, empty, _⟩ := names [] result reads
        cases empty
    | some given =>
      obtain ⟨own, gives⟩ := Option.filter_eq_some_iff.mp gave
      have alike := alike_ofLayers filled through tables
      rw [stands, own] at alike
      exact ⟨layer, given, rfl, fun whole => alike.read_own names (by simpa using gives) whole reads⟩

end Reading
end TreeShell
