import TreeShell.Build.Builder
import TreeShell.Proofs.ChildInsertion

/-! A tree that grows while a directory is walked. Everything that is met at one place goes
into the folder that its names lead to, so what a part of a walk does to the tree can be said
of that folder alone, and parts that follow each other put their children in together. -/

namespace TreeShell

namespace Node

def alter? (change : Node → Option Node) : List String → Node → Option Node
  | [], node => change node
  | name :: rest, .folder folderName path children =>
    match children.lookup name with
    | none => none
    | some next =>
      match alter? change rest next with
      | none => none
      | some changed => some (.folder folderName path (Children.insert name changed children))
  | _ :: _, .file .. => none

def addAll? (make : String → List Node) : Node → Option Node
  | .folder name path children =>
    some (.folder name path
      (Children.insertAll children ((make path).map fun child => (child.name, child))))
  | .file .. => none

private theorem alter?_append (change : Node → Option Node) (first second : List String) (node : Node) :
    alter? change (first ++ second) node = alter? (alter? change second) first node := by
  induction first generalizing node with
  | nil => rfl
  | cons name rest ih =>
    cases node with
    | file => rfl
    | folder folderName path children =>
      simp only [List.cons_append, alter?]
      cases children.lookup name with
      | none => rfl
      | some next => simp only [ih]

theorem alter?_bind (first second : Node → Option Node) (names : List String) (node : Node) :
    (alter? first names node).bind (alter? second names) =
      alter? (fun inner => (first inner).bind second) names node := by
  induction names generalizing node with
  | nil => rfl
  | cons name rest ih =>
    cases node with
    | file => rfl
    | folder folderName path children =>
      simp only [alter?]
      cases children.lookup name with
      | none => rfl
      | some next =>
        simp only [← ih]
        cases alter? first rest next with
        | none => rfl
        | some changed =>
          simp only [Option.bind_some, alter?, Children.lookup_insert, Children.insert_insert]

private theorem addAll?_bind (first second : String → List Node) (node : Node) :
    (addAll? first node).bind (addAll? second) =
      addAll? (fun path => first path ++ second path) node := by
  cases node with
  | file => rfl
  | folder name path children =>
    simp only [addAll?, Option.bind_some, List.map_append, Children.insertAll_append]

/-- A folder that is put in empty and filled afterwards is put in with its children. -/
private theorem addAll?_folder {name : String} {inside : String → List Node}
    (distinct : ∀ path, ((inside path).map Node.name).Nodup) (node : Node) :
    (addAll? (fun path => [folderUnder path name []]) node).bind (alter? (addAll? inside) [name]) =
      addAll? (fun path => [folderUnder path name (inside (Path.join path name))]) node := by
  cases node with
  | file => rfl
  | folder folderName path children =>
    have put : addAll? (fun path => [folderUnder path name []]) (.folder folderName path children) =
        some (.folder folderName path
          (Children.insert name (folderUnder path name []) children)) := rfl
    have filled : addAll? inside (folderUnder path name []) =
        some (folderUnder path name (inside (Path.join path name))) := by
      have collected := Children.insertAll_nil_eq_collect (distinct (Path.join path name))
      exact congrArg (fun entries => some (Node.folder name (Path.join path name) entries)) collected
    rw [put, Option.bind_some]
    simp only [alter?, Children.lookup_insert, filled, Children.insert_insert]
    rfl

theorem alter?_addAll?_nil {names : List String} {node result : Node} (ordered : node.Ordered)
    (altered : alter? (addAll? fun _ => []) names node = some result) : result = node := by
  induction names generalizing node result with
  | nil =>
    cases node with
    | file => cases altered
    | folder => exact (Option.some.inj altered).symm
  | cons name rest ih =>
    cases node with
    | file => cases altered
    | folder folderName path children =>
      obtain ⟨ascending, below⟩ := ordered_folder_iff.mp ordered
      simp only [alter?] at altered
      split at altered
      · cases altered
      · rename_i next found
        split at altered
        · cases altered
        · rename_i changed inner
          obtain ⟨before, after, parted, _⟩ := List.lookup_eq_some_iff.mp found
          have member : (name, next) ∈ children := parted ▸ List.mem_append_right _ List.mem_cons_self
          obtain rfl := ih (below _ member) inner
          cases Option.some.inj altered
          rw [Children.insert_of_lookup ascending found]

theorem placeChild?_eq_alter? (make : String → Node) (names : List String) (node : Node) :
    placeChild? make names node = alter? (addAll? fun path => [make path]) names node := by
  induction names generalizing node with
  | nil =>
    cases node with
    | file => rfl
    | folder => rfl
  | cons name rest ih =>
    cases node with
    | file => rfl
    | folder folderName path children =>
      simp only [placeChild?, alter?]
      cases children.lookup name with
      | none => rfl
      | some next =>
        cases inside : alter? (addAll? fun path => [make path]) rest next with
        | none => simp only [ih, inside]
        | some changed => simp only [ih, inside]

end Node

namespace Builder
open Node

/-- What was met puts these children into the folder that the names lead to, wherever there
is such a folder. -/
def Grows (source : List String) (met : List (Except WalkError Encounter)) (names : List String)
    (make : String → List Node) : Prop :=
  ∀ (root : { root : Node // root.Ordered }) (result : Node),
    alter? (addAll? make) names root.val = some result →
      ∃ ordered : result.Ordered, met.foldlM (add source) root = .ok ⟨result, ordered⟩

variable {source names : List String} {name : String}

theorem add_skipped {item : Item} (skipped : nodeOf? name item = none)
    (root : { root : Node // root.Ordered }) :
    add source root (.ok ⟨names ++ [name], item⟩) = .ok root := by
  simp only [add, List.getLast?_concat]
  split
  · rfl
  · rename_i make made
    rw [skipped] at made
    cases made

theorem add_made {item : Item} {make : String → Node} (made : nodeOf? name item = some make)
    {root : { root : Node // root.Ordered }} {result : Node}
    (placed : root.val.placeChild? make names = some result) :
    ∃ ordered : result.Ordered,
      add source root (.ok ⟨names ++ [name], item⟩) = .ok ⟨result, ordered⟩ := by
  refine ⟨ordered_placeChild? (ordered_nodeOf? made) _ root.property placed, ?_⟩
  simp only [add, List.getLast?_concat]
  split
  · rename_i skipped
    rw [made] at skipped
    cases skipped
  · rename_i other becomes
    obtain rfl := Option.some.inj (made.symm.trans becomes)
    split
    · rename_i missing
      rw [List.dropLast_concat, placed] at missing
      cases missing
    · rename_i found reached
      rw [List.dropLast_concat, placed] at reached
      cases reached
      rfl

namespace Grows

variable {met later : List (Except WalkError Encounter)} {make makeLater : String → List Node}

theorem nil : Grows source [] names fun _ => [] := by
  intro root result altered
  obtain rfl := alter?_addAll?_nil root.property altered
  exact ⟨root.property, rfl⟩

theorem append (first : Grows source met names make) (second : Grows source later names makeLater) :
    Grows source (met ++ later) names fun path => make path ++ makeLater path := by
  intro root result altered
  have both : addAll? (fun path => make path ++ makeLater path) =
      fun node => (addAll? make node).bind (addAll? makeLater) :=
    funext fun node => (addAll?_bind make makeLater node).symm
  rw [both, ← alter?_bind] at altered
  obtain ⟨middle, before, after⟩ := Option.bind_eq_some_iff.mp altered
  obtain ⟨middleOrdered, reached⟩ := first root middle before
  obtain ⟨ordered, finished⟩ := second ⟨middle, middleOrdered⟩ result after
  refine ⟨ordered, ?_⟩
  rw [List.foldlM_append, reached]
  exact finished

theorem skipped {item : Item} (skipped : nodeOf? name item = none) :
    Grows source [.ok ⟨names ++ [name], item⟩] names fun _ => [] := by
  intro root result altered
  obtain rfl := alter?_addAll?_nil root.property altered
  refine ⟨root.property, ?_⟩
  rw [List.foldlM_cons, add_skipped skipped]
  rfl

theorem made {item : Item} {make : String → Node} (made : nodeOf? name item = some make) :
    Grows source [.ok ⟨names ++ [name], item⟩] names fun path => [make path] := by
  intro root result altered
  rw [← placeChild?_eq_alter?] at altered
  obtain ⟨ordered, added⟩ := add_made made altered
  refine ⟨ordered, ?_⟩
  rw [List.foldlM_cons, added]
  rfl

/-- What is met behind a directory grows inside of the folder that the directory became. -/
theorem folder {entries : List (String × Item)} {inside : String → List Node}
    (distinct : ∀ path, ((inside path).map Node.name).Nodup)
    (behind : Grows source met (names ++ [name]) inside) :
    Grows source (.ok ⟨names ++ [name], .directory entries⟩ :: met) names fun path =>
      [folderUnder path name (inside (Path.join path name))] := by
  intro root result altered
  have both : addAll? (fun path => [folderUnder path name (inside (Path.join path name))]) =
      fun node => (addAll? (fun path => [folderUnder path name []]) node).bind
        (alter? (addAll? inside) [name]) :=
    funext fun node => (addAll?_folder distinct node).symm
  rw [both, ← alter?_bind] at altered
  obtain ⟨middle, before, after⟩ := Option.bind_eq_some_iff.mp altered
  rw [← alter?_append] at after
  have empty : nodeOf? name (.directory entries) = some fun path => folderUnder path name [] := rfl
  obtain ⟨middleOrdered, reached⟩ := (Grows.made empty) root middle before
  obtain ⟨ordered, finished⟩ := behind ⟨middle, middleOrdered⟩ result after
  refine ⟨ordered, ?_⟩
  rw [← List.singleton_append, List.foldlM_append, reached]
  exact finished

end Grows
end Builder
end TreeShell
