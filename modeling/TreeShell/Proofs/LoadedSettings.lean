import TreeShell.Proofs.LayerComposition

/-! Loading, seen from the layers. A run puts three layers over the standard one, and where all of
them keep the tables of settings, what is loaded is what stands at the paths of the fields. -/

namespace TreeShell

open Setting Assignment

theorem Settings.mem_tables_iff {path : List String} :
    path ∈ tables ↔ (∃ part : Part, path = [part.name]) ∨ path = ["logging", "modules"] := by
  simp only [tables, List.mem_cons, List.not_mem_nil, or_false]
  constructor
  · rintro (rfl | rfl | rfl | rfl | rfl)
    · exact .inl ⟨.tree, rfl⟩
    · exact .inl ⟨.shell, rfl⟩
    · exact .inl ⟨.builder, rfl⟩
    · exact .inl ⟨.logging, rfl⟩
    · exact .inr rfl
  · rintro (⟨part, rfl⟩ | rfl)
    · cases part <;> simp [Part.name]
    · simp

namespace Setting

theorem throughTables_single (name : String) : ThroughTables [name] := by
  intro before other after parted
  cases before with
  | nil => exact .inl rfl
  | cons first rest =>
    obtain ⟨_, nothing⟩ := List.cons_eq_cons.mp parted
    simp at nothing

theorem throughTables_snoc {path : List String} (name : String) (table : path ∈ Settings.tables)
    (through : ThroughTables path) : ThroughTables (path ++ [name]) := by
  intro before other after parted
  cases after using List.reverseRecOn with
  | nil =>
    obtain ⟨same, _⟩ := List.append_inj' parted rfl
    exact .inr (same ▸ table)
  | append_singleton after last =>
    rw [← List.cons_append, ← List.append_assoc] at parted
    obtain ⟨inner, _⟩ := List.append_inj' parted rfl
    exact through before other after inner

theorem throughTables_levels : ThroughTables ["logging", "modules"] :=
  throughTables_snoc "modules" (by simp [Settings.tables]) (throughTables_single "logging")

end Setting

namespace Field

theorem path_ne_nil (field : Field α) : field.path ≠ [] :=
  List.cons_ne_nil _ _

theorem throughTables (field : Field α) : ThroughTables field.path :=
  throughTables_snoc field.name (Settings.mem_tables_iff.mpr (.inl ⟨field.part, rfl⟩))
    (throughTables_single field.part.name)

end Field

namespace Assignment

theorem exists_mergeMembers_table (members rest : List (String × Setting)) :
    ∃ made, mergeMembers (.table members) rest = .table made := by
  induction rest generalizing members with
  | nil => exact ⟨members, rfl⟩
  | cons member rest ih =>
    rw [mergeMembers]
    exact ih _

private theorem exists_apply_table {assignment : Assignment} (keeps : assignment.KeepsTable)
    (present : Option (List (String × Setting))) :
    ∃ made, assignment.apply (present.map .table) = .table made := by
  obtain ⟨steps, value⟩ := assignment
  match steps, value, keeps with
  | .member name :: steps, value, _ =>
    obtain ⟨key, puts⟩ := exists_apply_member name steps value
    obtain ⟨inner, made⟩ := puts (present.map .table)
    exact ⟨_, made⟩
  | [], .table members, _ =>
    cases present with
    | none => exact exists_mergeMembers_table [] members
    | some before => exact exists_mergeMembers_table before members

theorem exists_applyAll_table {assignments : List Assignment}
    (keeps : ∀ one ∈ assignments, one.KeepsTable) (present : Option (List (String × Setting)))
    (given : assignments ≠ [] ∨ present.isSome) :
    ∃ made, applyAll assignments (present.map .table) = some (.table made) := by
  induction assignments generalizing present with
  | nil =>
    obtain ⟨members, rfl⟩ := Option.isSome_iff_exists.mp (given.resolve_left (· rfl))
    exact ⟨members, rfl⟩
  | cons assignment rest ih =>
    obtain ⟨first, later⟩ := List.forall_mem_cons.mp keeps
    obtain ⟨made, makes⟩ := exists_apply_table first present
    rw [applyAll_cons, makes]
    exact ih later (some made) (.inr rfl)

end Assignment

theorem Setting.isTable_ofLayers (layers : List Layer) : (ofLayers layers).IsTable := by
  have keeps : ∀ one ∈ layers.flatMap Layer.assignments, one.KeepsTable := by
    intro one said
    obtain ⟨layer, _, said⟩ := List.mem_flatMap.mp said
    exact Layer.keepsTable_assignments said
  obtain ⟨made, makes⟩ := exists_applyAll_table keeps (some []) (.inr rfl)
  have all : some (ofLayers layers) = some (.table made) := (some_ofLayers layers).trans makes
  rw [Option.some.inj all]
  exact trivial

section Over

variable {lower upper : List Layer}

/-- What stands at a path is made by the upper layers of what the lower ones make there. -/
theorem Setting.under_append_layers {path : List String}
    (keeps : ∀ before name after, path = before ++ name :: after →
      ∀ one ∈ about before (upper.flatMap Layer.assignments), one.KeepsTable) :
    (ofLayers (lower ++ upper)).under path =
      applyAll (upper.flatMap fun layer => about path layer.assignments) ((ofLayers lower).under path) := by
  have stacked : some (ofLayers (lower ++ upper)) =
      applyAll (upper.flatMap Layer.assignments) (some (ofLayers lower)) := by
    rw [some_ofLayers, List.flatMap_append, applyAll_append, ← some_ofLayers]
  have made := under_applyAll keeps (some (ofLayers lower))
  rwa [← stacked, about_flatMap] at made

theorem keepsTable_root {upper : List Layer} :
    ∀ one ∈ upper.flatMap Layer.assignments, one.KeepsTable := by
  intro one said
  obtain ⟨layer, _, said⟩ := List.mem_flatMap.mp said
  exact Layer.keepsTable_assignments said

/-- A layer in which a section is a table. -/
def Layer.KeepsPart (part : Settings.Part) (layer : Layer) : Prop :=
  ∀ one ∈ about [part.name] layer.assignments, one.KeepsTable

theorem Layer.KeepsTables.keepsPart {part : Settings.Part} {layer : Layer} (tables : layer.KeepsTables) :
    layer.KeepsPart part :=
  tables _ (Settings.mem_tables_iff.mpr (.inl ⟨part, rfl⟩))

theorem Setting.under_part_append (part : Settings.Part) : (ofLayers (lower ++ upper)).under [part.name] =
    applyAll (upper.flatMap fun layer => about [part.name] layer.assignments)
      ((ofLayers lower).under [part.name]) := by
  apply under_append_layers
  intro before name after parted
  cases before with
  | nil => exact keepsTable_root
  | cons first rest =>
    obtain ⟨_, nothing⟩ := List.cons_eq_cons.mp parted
    simp at nothing

theorem Setting.under_name_append {part : Settings.Part} (name : String)
    (keeps : ∀ layer ∈ upper, layer.KeepsPart part) :
    (ofLayers (lower ++ upper)).under [part.name, name] =
      applyAll (upper.flatMap fun layer => about [part.name, name] layer.assignments)
        ((ofLayers lower).under [part.name, name]) := by
  apply under_append_layers
  intro before other after parted
  match before with
  | [] => exact keepsTable_root
  | [first] =>
    obtain ⟨rfl, _⟩ := List.cons_eq_cons.mp parted
    intro one said
    rw [about_flatMap] at said
    obtain ⟨layer, inUpper, said⟩ := List.mem_flatMap.mp said
    exact keeps layer inUpper one said
  | first :: second :: rest => simp at parted

theorem Setting.under_field_append (field : Field α)
    (keeps : ∀ layer ∈ upper, layer.KeepsPart field.part) :
    (ofLayers (lower ++ upper)).under field.path =
      applyAll (upper.flatMap fun layer => about field.path layer.assignments)
        ((ofLayers lower).under field.path) :=
  under_name_append field.name keeps

theorem Layer.keepsPart_pair {part : Settings.Part} {first second : Layer} (firstKeeps : first.KeepsPart part)
    (secondKeeps : second.KeepsPart part) : ∀ layer ∈ [first, second], layer.KeepsPart part :=
  List.forall_mem_cons.mpr ⟨firstKeeps, List.forall_mem_singleton.mpr secondKeeps⟩

theorem Setting.exists_part_table {setting : Setting} {header name : String} {inner : Setting}
    (stands : setting.under [header, name] = some inner) :
    ∃ members, setting.under [header] = some (.table members) := by
  rw [show [header, name] = [header] ++ [name] from rfl, under_append, Option.bind_eq_some_iff] at stands
  obtain ⟨part, found, below⟩ := stands
  cases part with
  | table members => exact ⟨members, found⟩
  | _ => simp [under_single, Setting.members] at below

end Over

namespace Settings

/-- The layers that a run puts over the standard one, the lowest first. -/
def upperLayers? (formats : List FileFormat) (disk : Disk) (environment : Environment)
    (explicit : Option DiskPath) : Option (List Layer) := do
  let fromPlace ← globalLayer? formats disk environment
  let fromFile ← explicitLayer? formats disk explicit
  pure [fromPlace, fromFile, Layer.ofVariables environment.entries]

def stack (layers : List Layer) : List Layer :=
  standard.toLayer :: layers

theorem load?_eq_bind (formats : List FileFormat) (disk : Disk) (environment : Environment)
    (explicit : Option DiskPath) : load? formats disk environment explicit =
      (upperLayers? formats disk environment explicit).bind fun layers =>
        ofSetting? (ofLayers (stack layers)) := by
  simp only [load?, upperLayers?, Option.bind_eq_bind, Option.bind_assoc, Option.pure_def,
    Option.bind_some, stack]

theorem about_standard_part (part : Part) :
    ∃ members, about [part.name] standard.toLayer.assignments = [⟨[], .table members⟩] := by
  cases part <;> exact ⟨_, rfl⟩

private theorem about_standard_levels : about ["logging", "modules"] standard.toLayer.assignments = [] :=
  rfl

private theorem about_standard_field (field : Field α) :
    ∃ value, about field.path standard.toLayer.assignments = [⟨[], value⟩] := by
  cases field <;> exact ⟨_, rfl⟩

theorem keepsTables_standard : standard.toLayer.KeepsTables := by
  intro path table one said
  rcases mem_tables_iff.mp table with ⟨part, rfl⟩ | rfl
  · obtain ⟨members, standing⟩ := about_standard_part part
    rw [standing, List.mem_singleton] at said
    rw [said]
    exact trivial
  · rw [about_standard_levels] at said
    cases said

variable {layers : List Layer}

theorem keepsTables_stack (tables : ∀ layer ∈ layers, layer.KeepsTables) :
    ∀ layer ∈ stack layers, layer.KeepsTables :=
  List.forall_mem_cons.mpr ⟨keepsTables_standard, tables⟩

/-- The standard layer opens every section, which stays a table if no layer makes it anything else. -/
theorem exists_part_stack {part : Part} (keeps : ∀ layer ∈ stack layers, layer.KeepsPart part) :
    ∃ members, (ofLayers (stack layers)).under [part.name] = some (.table members) := by
  have made := @under_part_append [] (stack layers) part
  rw [List.nil_append] at made
  rw [made]
  refine exists_applyAll_table ?_ none ?_
  · intro one said
    obtain ⟨layer, inStack, said⟩ := List.mem_flatMap.mp said
    exact keeps layer inStack one said
  · left
    obtain ⟨members, standing⟩ := about_standard_part part
    rw [stack, List.flatMap_cons, standing]
    exact List.cons_ne_nil _ _

private theorem hasSections_stack (tables : ∀ layer ∈ layers, layer.KeepsTables) :
    (ofLayers (stack layers)).HasSections where
  table := isTable_ofLayers (stack layers)
  sections _ := exists_part_stack fun layer inStack => (keepsTables_stack tables layer inStack).keepsPart

/-- Something stands at the path of every field, since the standard layer has a value for it. -/
theorem exists_under_stack (tables : ∀ layer ∈ layers, layer.KeepsTables) (field : Field α) :
    ∃ made, (ofLayers (stack layers)).under field.path = some made ∧
      field.readFrom (ofLayers (stack layers)) = field.read made := by
  have present : ((ofLayers (stack layers)).under field.path).isSome := by
    obtain ⟨value, standing⟩ := about_standard_field field
    rw [under_ofLayers field.path_ne_nil field.throughTables (keepsTables_stack tables)]
    apply applyAll_isSome
    left
    rw [stack, List.flatMap_cons, standing]
    exact List.cons_ne_nil _ _
  obtain ⟨made, stands⟩ := Option.isSome_iff_exists.mp present
  exact ⟨made, stands, by rw [Field.readFrom, stands]⟩

theorem load?_eq_some_iff {formats : List FileFormat} {disk : Disk} {environment : Environment}
    {explicit : Option DiskPath} (stacked : upperLayers? formats disk environment explicit = some layers)
    (tables : ∀ layer ∈ layers, layer.KeepsTables) {settings : Settings} :
    load? formats disk environment explicit = some settings ↔
      (∀ {α : Type} (field : Field α),
        field.readFrom (ofLayers (stack layers)) = some (field.value settings)) ∧
      (ofLayers (stack layers)).levels? = some settings.logging.modules := by
  rw [load?_eq_bind, stacked, Option.bind_some]
  exact ofSetting?_eq_some_iff (hasSections_stack tables)

end Settings
end TreeShell
