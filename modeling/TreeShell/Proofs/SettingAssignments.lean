import TreeShell.Settings.Load

/-! Layers as assignments. Each key of a layer assigns one value, and what the assignments make
at some path follows from those that reach it: the ones elsewhere leave it as it is. -/

namespace TreeShell

section Lookup

variable {name other : String} {value : α} {entries : List (String × α)}

theorem lookup_putSetting_self : (putSetting name value entries).lookup name = some value := by
  induction entries with
  | nil => simp [putSetting]
  | cons entry rest ih =>
    obtain ⟨key, present⟩ := entry
    simp only [putSetting]
    split
    · simp
    · split
      · simp
      · rename_i differ
        rw [List.lookup_cons]
        split
        · rename_i same
          exact absurd same differ
        · exact ih

theorem lookup_putSetting_of_ne (apart : other ≠ name) :
    (putSetting name value entries).lookup other = entries.lookup other := by
  have unequal : (other == name) = false := beq_false_of_ne apart
  induction entries with
  | nil => simp [putSetting, List.lookup_cons, unequal]
  | cons entry rest ih =>
    obtain ⟨key, present⟩ := entry
    simp only [putSetting]
    split
    · rw [List.lookup_cons, unequal]
    · split
      · rename_i same
        rw [← eq_of_beq same, List.lookup_cons, List.lookup_cons, unequal]
      · rw [List.lookup_cons, List.lookup_cons, ih]

end Lookup

namespace Setting

/-- What stands at the end of a path of names. -/
def under : List String → Setting → Option Setting
  | [], setting => some setting
  | name :: names, setting => (setting.members.lookup name).bind (under names)

def IsTable : Setting → Prop
  | .table _ => True
  | _ => False

instance : DecidablePred IsTable
  | .table _ => isTrue trivial
  | .absent | .bool _ | .integer _ | .float _ | .text _ | .list _ => isFalse id

end Setting

open Setting

/-- A value that is put at the end of some steps. -/
structure Assignment where
  steps : List KeyStep
  value : Setting

namespace Assignment

/-- What an assignment makes of what is there. -/
def apply (assignment : Assignment) (present : Option Setting) : Setting :=
  match assignment.steps.getLast? with
  | none => merge present assignment.value
  | some last =>
    changeAt (putAt last assignment.value) assignment.steps.dropLast (present.getD .absent)

/-- What several assignments in turn make of what is there. -/
def applyAll (assignments : List Assignment) (present : Option Setting) : Option Setting :=
  assignments.foldl (fun present assignment => some (assignment.apply present)) present

/-- The assignments that one comes to inside of a member. -/
def inside (name : String) : Assignment → List Assignment
  | ⟨[], .table members⟩ =>
    members.filterMap fun (key, value) =>
      if Text.lowercase key = name then some ⟨[], value⟩ else none
  | ⟨[.member key], value⟩ => if Text.lowercase key = name then [⟨[], value⟩] else []
  | ⟨.member key :: step :: steps, value⟩ => if key = name then [⟨step :: steps, value⟩] else []
  | _ => []

/-- The assignments that some come to at the end of a path. -/
def about : List String → List Assignment → List Assignment
  | [], assignments => assignments
  | name :: names, assignments => about names (assignments.flatMap (inside name))

/-- An assignment that makes a table of what is there, or keeps it one. -/
def KeepsTable (assignment : Assignment) : Prop :=
  match assignment.steps with
  | [] => assignment.value.IsTable
  | .member _ :: _ => True
  | .item _ :: _ => False

instance : DecidablePred KeepsTable
  | ⟨[], value⟩ => inferInstanceAs (Decidable value.IsTable)
  | ⟨.member _ :: _, _⟩ => isTrue trivial
  | ⟨.item _ :: _, _⟩ => isFalse id

end Assignment

open Assignment

def Layer.assignments (layer : Layer) : List Assignment :=
  layer.map fun (key, value) => ⟨KeyStep.ofKey key, value⟩

namespace Assignment

theorem applyAll_append (first second : List Assignment) (present : Option Setting) :
    applyAll (first ++ second) present = applyAll second (applyAll first present) :=
  List.foldl_append

@[simp] theorem applyAll_nil (present : Option Setting) : applyAll [] present = present :=
  rfl

theorem applyAll_cons (assignment : Assignment) (rest : List Assignment) (present : Option Setting) :
    applyAll (assignment :: rest) present = applyAll rest (some (assignment.apply present)) :=
  rfl

theorem applyAll_isSome {assignments : List Assignment} {present : Option Setting}
    (given : assignments ≠ [] ∨ present.isSome) : (applyAll assignments present).isSome := by
  induction assignments generalizing present with
  | nil => simpa using given
  | cons assignment rest ih => exact ih (.inr rfl)

theorem about_append (path : List String) (first second : List Assignment) :
    about path (first ++ second) = about path first ++ about path second := by
  induction path generalizing first second with
  | nil => rfl
  | cons name names ih => rw [about, List.flatMap_append, ih, about, about]

@[simp] theorem about_nil (path : List String) : about path [] = [] := by
  induction path with
  | nil => rfl
  | cons name names ih => exact ih

theorem about_flatMap (path : List String) (parts : List α) (assignments : α → List Assignment) :
    about path (parts.flatMap assignments) = parts.flatMap fun part => about path (assignments part) := by
  induction parts with
  | nil => simp
  | cons part rest ih => rw [List.flatMap_cons, about_append, ih, List.flatMap_cons]

/-- A value at the end of some names, or behind it, is nothing for a path that leads elsewhere. -/
theorem about_eq_nil_of_apart {names path : List String} (steps : List KeyStep) (value : Setting)
    (lower : ∀ name ∈ names, Text.lowercase name = name) (outside : ¬names <+: path)
    (above : ¬path <+: names) : about path [⟨names.map .member ++ steps, value⟩] = [] := by
  induction path generalizing names with
  | nil => exact absurd (List.nil_prefix) above
  | cons first path ih =>
    rw [about, List.flatMap_singleton]
    match names with
    | [] => exact absurd (List.nil_prefix) outside
    | [name] =>
      have differ : name ≠ first := by
        rintro rfl
        exact outside (by simp)
      have nothing : inside first ⟨.member name :: steps, value⟩ = [] := by
        cases steps with
        | nil => rw [inside, lower name (List.mem_singleton_self name), if_neg differ]
        | cons step steps => rw [inside, if_neg differ]
      exact (congrArg (about path) nothing).trans (about_nil path)
    | name :: next :: names =>
      rw [List.map_cons, List.map_cons, List.cons_append, List.cons_append, inside]
      split
      · rename_i same
        subst same
        rw [← List.cons_append, ← List.map_cons]
        apply ih
        · exact fun other member => lower other (List.mem_cons_of_mem _ member)
        · exact fun begins => outside (List.prefix_cons_inj _ |>.mpr begins)
        · exact fun begins => above (List.prefix_cons_inj _ |>.mpr begins)
      · exact about_nil path

/-- Members put over a table in turn: under each name, what those of that name come to. -/
theorem lookup_mergeMembers (name : String) (members : List (String × Setting)) (present : Setting) :
    (mergeMembers present members).members.lookup name =
      applyAll (inside name ⟨[], .table members⟩) (present.members.lookup name) := by
  induction members generalizing present with
  | nil => rfl
  | cons member rest ih =>
    obtain ⟨key, value⟩ := member
    rw [mergeMembers, ih]
    simp only [inside, Setting.members, List.filterMap_cons]
    by_cases same : Text.lowercase key = name
    · rw [if_pos same, ← same, lookup_putSetting_self]
      rfl
    · rw [if_neg same, lookup_putSetting_of_ne (Ne.symm same)]

private theorem inside_member (name key : String) (value : Setting) :
    inside name ⟨[.member key], value⟩ = inside name ⟨[], .table [(key, value)]⟩ := by
  by_cases same : Text.lowercase key = name
  · simp [inside, same]
  · simp [inside, same]

theorem lookup_apply {assignment : Assignment} (keeps : assignment.KeepsTable) (name : String)
    (present : Option Setting) :
    (assignment.apply present).members.lookup name =
      applyAll (assignment.inside name) (present.bind (·.members.lookup name)) := by
  obtain ⟨steps, value⟩ := assignment
  match steps, value, keeps with
  | [], .table members, _ =>
    have merged := lookup_mergeMembers name members (present.getD (.table []))
    cases present with
    | none => exact merged
    | some setting => exact merged
  | [.member key], value, _ =>
    have merged := lookup_mergeMembers name [(key, value)] (.table (present.getD .absent).members)
    rw [← inside_member] at merged
    cases present with
    | none => exact merged
    | some setting => exact merged
  | .member key :: step :: steps, value, _ =>
    have changed : (apply ⟨.member key :: step :: steps, value⟩ present).members =
        putSetting key (apply ⟨step :: steps, value⟩ ((present.getD .absent).members.lookup key))
          (present.getD .absent).members := by
      simp only [apply, List.getLast?_cons_cons, List.dropLast_cons_cons, changeAt]
      split
      · simp_all
      · rfl
    have below : present.bind (·.members.lookup name) = (present.getD .absent).members.lookup name := by
      cases present <;> rfl
    rw [changed, below]
    by_cases same : key = name
    · subst same
      simp only [inside, if_true, lookup_putSetting_self]
      rfl
    · simp only [inside, same, if_false, lookup_putSetting_of_ne (Ne.symm same)]
      rfl

theorem lookup_applyAll {assignments : List Assignment} (keeps : ∀ one ∈ assignments, one.KeepsTable)
    (name : String) (present : Option Setting) :
    (applyAll assignments present).bind (·.members.lookup name) =
      applyAll (assignments.flatMap (inside name)) (present.bind (·.members.lookup name)) := by
  induction assignments generalizing present with
  | nil => rfl
  | cons assignment rest ih =>
    obtain ⟨first, others⟩ := List.forall_mem_cons.mp keeps
    rw [applyAll_cons, ih others, List.flatMap_cons, applyAll_append, ← lookup_apply first]
    rfl

/-- What stands at a path after assignments that keep the tables on the way to it: what those
that reach the path make of what stood there. -/
theorem under_applyAll {path : List String} {assignments : List Assignment}
    (keeps : ∀ before name after, path = before ++ name :: after →
      ∀ one ∈ about before assignments, one.KeepsTable) (present : Option Setting) :
    (applyAll assignments present).bind (under path) =
      applyAll (about path assignments) (present.bind (under path)) := by
  induction path generalizing assignments present with
  | nil => simp [under, about]
  | cons name names ih =>
    have here : (applyAll assignments present).bind (·.members.lookup name) =
        applyAll (assignments.flatMap (inside name)) (present.bind (·.members.lookup name)) :=
      lookup_applyAll (keeps [] name names rfl) name present
    have later : ∀ before next after, names = before ++ next :: after →
        ∀ one ∈ about before (assignments.flatMap (inside name)), one.KeepsTable :=
      fun before next after parted => keeps (name :: before) next after (by rw [parted]; rfl)
    have deeper := ih later (present.bind (·.members.lookup name))
    rw [← here, Option.bind_assoc, Option.bind_assoc] at deeper
    exact deeper

end Assignment

namespace KeyStep

theorem exists_ofKey (key : String) : ∃ name steps, ofKey key = .member name :: steps := by
  unfold ofKey
  dsimp only
  split
  · exact ⟨_, [], rfl⟩
  · cases more? _ _ with
    | none => exact ⟨_, [], rfl⟩
    | some steps => exact ⟨_, steps, rfl⟩

end KeyStep

namespace Layer

theorem keepsTable_assignments {layer : Layer} {assignment : Assignment}
    (member : assignment ∈ layer.assignments) : assignment.KeepsTable := by
  obtain ⟨⟨key, value⟩, _, rfl⟩ := List.mem_map.mp member
  obtain ⟨name, steps, spelled⟩ := KeyStep.exists_ofKey key
  simp only [KeepsTable, spelled]

end Layer

namespace Setting

theorem assign_eq_apply (setting : Setting) (key : String) (value : Setting) :
    setting.assign key value = apply ⟨KeyStep.ofKey key, value⟩ (some setting) := by
  obtain ⟨name, steps, spelled⟩ := KeyStep.exists_ofKey key
  have last : (KeyStep.member name :: steps).getLast? =
      some ((KeyStep.member name :: steps).getLast (by simp)) :=
    List.getLast?_eq_some_getLast _
  simp only [assign, apply, spelled, last]
  rfl

private theorem some_withLayer (setting : Setting) (layer : Layer) :
    some (setting.withLayer layer) = applyAll layer.assignments (some setting) := by
  induction layer generalizing setting with
  | nil => rfl
  | cons entry rest ih =>
    calc some ((setting.assign entry.1 entry.2).withLayer rest)
      _ = applyAll (Layer.assignments rest) (some (setting.assign entry.1 entry.2)) := ih _
      _ = applyAll (Layer.assignments (entry :: rest)) (some setting) := by
        rw [assign_eq_apply]
        rfl

theorem some_ofLayers (layers : List Layer) :
    some (ofLayers layers) = applyAll (layers.flatMap Layer.assignments) (some (.table [])) := by
  have fold (setting : Setting) : some (layers.foldl withLayer setting) =
      applyAll (layers.flatMap Layer.assignments) (some setting) := by
    induction layers generalizing setting with
    | nil => rfl
    | cons layer rest ih =>
      rw [List.foldl_cons, ih, some_withLayer, List.flatMap_cons, applyAll_append]
  exact fold _

end Setting

/-- The tables that settings are made of: the sections, and the levels of modules. -/
def Settings.tables : List (List String) :=
  [["tree"], ["shell"], ["builder"], ["logging"], ["logging", "modules"]]

/-- A layer in which sections are tables: no key puts anything else in their place. -/
def Layer.KeepsTables (layer : Layer) : Prop :=
  ∀ path ∈ Settings.tables, ∀ one ∈ about path layer.assignments, one.KeepsTable

instance : DecidablePred Layer.KeepsTables := fun layer =>
  inferInstanceAs (Decidable (∀ path ∈ Settings.tables, ∀ one ∈ about path layer.assignments,
    one.KeepsTable))

/-- A path all of whose steps lead through tables of settings. -/
def Setting.ThroughTables (path : List String) : Prop :=
  ∀ before name after, path = before ++ name :: after → before = [] ∨ before ∈ Settings.tables

namespace Setting

/-- What layers make at a path is made of their assignments about it, the lowest layer first. -/
theorem under_ofLayers {path : List String} (filled : path ≠ []) (through : ThroughTables path)
    {layers : List Layer} (tables : ∀ layer ∈ layers, layer.KeepsTables) :
    (ofLayers layers).under path =
      applyAll (layers.flatMap fun layer => about path layer.assignments) none := by
  have keeps : ∀ before name after, path = before ++ name :: after →
      ∀ one ∈ about before (layers.flatMap Layer.assignments), one.KeepsTable := by
    intro before name after parted one member
    rw [about_flatMap] at member
    obtain ⟨layer, inLayers, said⟩ := List.mem_flatMap.mp member
    rcases through before name after parted with rfl | table
    · exact Layer.keepsTable_assignments said
    · exact tables layer inLayers before table one said
  have made := under_applyAll keeps (some (.table []))
  rw [← some_ofLayers, about_flatMap] at made
  cases path with
  | nil => exact absurd rfl filled
  | cons name names => exact made

end Setting
end TreeShell
