import Mathlib.Logic.Relation
import TreeShell.Proofs.LoadedSettings

/-! Leaves of settings. A leaf is set by a key of its own, by one for an item inside of it, or as a
member of the tables that it lies in, and none of these says anything about another leaf. -/

namespace TreeShell

open Setting Assignment

namespace Settings

/-- The paths of the fields, and of the levels of modules. -/
inductive IsLeaf : List String → Prop
  | field {α : Type} (field : Field α) : IsLeaf field.path
  | level (name : String) : IsLeaf ["logging", "modules", name]

theorem IsLeaf.eq_of_prefix {leaf other : List String} (isLeaf : IsLeaf leaf) (isOther : IsLeaf other)
    (leads : leaf <+: other) : leaf = other := by
  cases isLeaf with
  | field field =>
    cases isOther with
    | field => exact leads.eq_of_length rfl
    | level name =>
      have inSection : field.path = ["logging", "modules"] := by
        rw [List.prefix_iff_eq_take.mp leads]
        rfl
      cases field <;> simp [Field.path, Field.part, Field.name, Part.name] at inSection
  | level name =>
    cases isOther with
    | field => exact absurd leads.length_le (by simp [Field.path])
    | level => exact leads.eq_of_length rfl

end Settings

namespace Setting

/-- A value that says nothing but for the end of a path inside of it. -/
def OnlyAt : List String → Setting → Prop
  | [], _ => True
  | name :: path, .table members =>
    ∀ member ∈ members, Text.lowercase member.1 = name ∧ OnlyAt path member.2
  | _ :: _, _ => False

/-- Members of a table without something for the end of a path, and with it. -/
inductive MoreAt : List String → List (String × Setting) → List (String × Setting) → Prop
  | set {name key : String} {path : List String} {value : Setting} {before after}
      (spelled : Text.lowercase key = name) (only : value.OnlyAt path) :
      MoreAt (name :: path) (before ++ after) (before ++ (key, value) :: after)
  | inside {name key : String} {path : List String} {members more before after}
      (spelled : Text.lowercase key = name) (deeper : MoreAt path members more) :
      MoreAt (name :: path) (before ++ (key, .table members) :: after)
        (before ++ (key, .table more) :: after)

end Setting

namespace Assignment

variable {path names : List String}

theorem about_table_middle (first : String) (key : String) (value : Setting)
    (before after : List (String × Setting)) :
    about (first :: path) [⟨[], .table (before ++ (key, value) :: after)⟩] =
      about (first :: path) [⟨[], .table before⟩] ++
        (about path (if Text.lowercase key = first then [⟨[], value⟩] else []) ++
          about (first :: path) [⟨[], .table after⟩]) := by
  have members : inside first ⟨[], .table (before ++ (key, value) :: after)⟩ =
      inside first ⟨[], .table before⟩ ++ ((if Text.lowercase key = first then [⟨[], value⟩] else []) ++
        inside first ⟨[], .table after⟩) := by
    simp only [inside, List.filterMap_append, List.filterMap_cons]
    by_cases same : Text.lowercase key = first
    · rw [if_pos same, if_pos same]
      rfl
    · rw [if_neg same, if_neg same]
      rfl
  simp only [about, List.flatMap_singleton, members, about_append]

private theorem about_table_append (first : String) (before after : List (String × Setting)) :
    about (first :: path) [⟨[], .table (before ++ after)⟩] =
      about (first :: path) [⟨[], .table before⟩] ++ about (first :: path) [⟨[], .table after⟩] := by
  simp only [about, List.flatMap_singleton, inside, List.filterMap_append, about_append]

theorem about_eq_nil_of_onlyAt {leaf : List String} {value : Setting} (only : value.OnlyAt leaf)
    (outside : ¬leaf <+: path) (above : ¬path <+: leaf) : about path [⟨[], value⟩] = [] := by
  induction leaf generalizing path value with
  | nil => exact absurd List.nil_prefix outside
  | cons name leaf ih =>
    match path, value, only with
    | [], _, _ => exact absurd List.nil_prefix above
    | first :: path, .table members, only =>
      induction members with
      | nil => exact about_nil path
      | cons member rest inRest =>
        obtain ⟨⟨spelled, onlyInside⟩, later⟩ := List.forall_mem_cons.mp only
        have parted := @about_table_middle path first member.1 member.2 [] rest
        rw [List.nil_append] at parted
        rw [parted, inRest later, List.append_nil]
        split
        · rename_i same
          obtain rfl : name = first := spelled.symm.trans same
          rw [List.prefix_cons_inj] at outside above
          rw [ih onlyInside outside above, List.append_nil]
          exact about_nil path
        · rw [about_nil, List.append_nil]
          exact about_nil path

theorem about_of_moreAt {leaf : List String} {members more : List (String × Setting)}
    (moreAt : MoreAt leaf members more) (outside : ¬leaf <+: path) (above : ¬path <+: leaf) :
    about path [⟨[], .table members⟩] = about path [⟨[], .table more⟩] := by
  induction moreAt generalizing path with
  | @set name key leaf value before after spelled only =>
    cases path with
    | nil => exact absurd List.nil_prefix above
    | cons first path =>
      have silent : about path (if Text.lowercase key = first then [⟨[], value⟩] else []) = [] := by
        split
        · rename_i same
          obtain rfl : name = first := spelled.symm.trans same
          rw [List.prefix_cons_inj] at outside above
          exact about_eq_nil_of_onlyAt only outside above
        · exact about_nil path
      rw [about_table_middle, silent, List.nil_append, about_table_append]
  | @inside name key leaf members more before after spelled deeper ih =>
    cases path with
    | nil => exact absurd List.nil_prefix above
    | cons first path =>
      rw [about_table_middle, about_table_middle]
      split
      · rename_i same
        obtain rfl : name = first := spelled.symm.trans same
        rw [List.prefix_cons_inj] at outside above
        rw [ih outside above]
      · rfl

private theorem about_names_append (lower : ∀ name ∈ names, Text.lowercase name = name) (value : Setting) :
    about (names ++ path) [⟨names.map .member, value⟩] = about path [⟨[], value⟩] := by
  induction names with
  | nil => rfl
  | cons name names ih =>
    obtain ⟨first, later⟩ := List.forall_mem_cons.mp lower
    cases names with
    | nil => simp [about, inside, first]
    | cons next names =>
      rw [← ih later]
      simp [about, inside]

/-- What is put at the end of some names is for a path what it is for the rest of that path, or
nothing. -/
private theorem about_names_cases {leaf : List String} (lower : ∀ name ∈ names, Text.lowercase name = name)
    (outside : ¬names ++ leaf <+: path) (above : ¬path <+: names ++ leaf) :
    (∃ rest, ¬leaf <+: rest ∧ ¬rest <+: leaf ∧
      ∀ value, about path [⟨names.map .member, value⟩] = about rest [⟨[], value⟩]) ∨
    ∀ value, about path [⟨names.map .member, value⟩] = [] := by
  by_cases leads : names <+: path
  · left
    obtain ⟨rest, rfl⟩ := leads
    rw [List.prefix_append_right_inj] at outside above
    exact ⟨rest, outside, above, about_names_append lower⟩
  · right
    intro value
    have short : ¬path <+: names := fun begins => above (begins.trans (List.prefix_append _ _))
    simpa using about_eq_nil_of_apart [] value lower leads short

end Assignment

namespace Layer

/-- A layer without something for a leaf, and with it: by a key that leads towards the leaf or behind
it, or inside of a table that is there. -/
inductive MoreAt : List String → Layer → Layer → Prop
  | set {key : String} {names path : List String} {value : Setting} {before after : Layer}
      (spelled : KeyStep.ofKey key = names.map .member) (only : value.OnlyAt path) :
      MoreAt (names ++ path) (before ++ after) (before ++ (key, value) :: after)
  | behind {key : String} {leaf : List String} {steps : List KeyStep} {value : Setting}
      {before after : Layer} (spelled : KeyStep.ofKey key = leaf.map .member ++ steps) :
      MoreAt leaf (before ++ after) (before ++ (key, value) :: after)
  | inside {key : String} {names path : List String} {members more : List (String × Setting)}
      {before after : Layer} (spelled : KeyStep.ofKey key = names.map .member)
      (deeper : Setting.MoreAt path members more) :
      MoreAt (names ++ path) (before ++ (key, .table members) :: after)
        (before ++ (key, .table more) :: after)

/-- Layers that come from one another by setting a leaf, or no longer setting it, any number of
times. -/
def DifferAt (leaf : List String) : Layer → Layer → Prop :=
  Relation.EqvGen (MoreAt leaf)

/-- Layers of two runs that say the same for a path, layer by layer. -/
def SayTheSame (path : List String) (layers others : List Layer) : Prop :=
  layers.map (fun layer => about path layer.assignments) =
    others.map fun layer => about path layer.assignments

variable {leaf path : List String} {one other : Layer}

private theorem about_middle (entry : String × Setting) (before after : Layer) :
    about path (assignments (before ++ entry :: after)) = about path (assignments before) ++
      (about path [⟨KeyStep.ofKey entry.1, entry.2⟩] ++ about path (assignments after)) := by
  rw [assignments, List.map_append, List.map_cons, about_append, ← List.singleton_append, about_append]
  rfl

private theorem about_others (before after : Layer) : about path (assignments (before ++ after)) =
    about path (assignments before) ++ about path (assignments after) := by
  rw [assignments, List.map_append, about_append]
  rfl

theorem about_of_moreAt (moreAt : MoreAt leaf one other)
    (lower : ∀ name ∈ leaf, Text.lowercase name = name) (outside : ¬leaf <+: path)
    (above : ¬path <+: leaf) : about path one.assignments = about path other.assignments := by
  cases moreAt with
  | @set key names inner value before after spelled only =>
    have lowerNames := (List.forall_mem_append.mp lower).1
    have silent : about path [⟨names.map .member, value⟩] = [] := by
      rcases about_names_cases lowerNames outside above with ⟨rest, apart, short, below⟩ | nothing
      · rw [below]
        exact about_eq_nil_of_onlyAt only apart short
      · exact nothing value
    rw [about_middle, spelled, silent, List.nil_append, about_others]
  | behind spelled =>
    rw [about_middle, spelled, about_eq_nil_of_apart _ _ lower outside above, List.nil_append,
      about_others]
  | @inside key names inner members more before after spelled deeper =>
    have lowerNames := (List.forall_mem_append.mp lower).1
    have same : about path [⟨names.map .member, .table members⟩] =
        about path [⟨names.map .member, .table more⟩] := by
      rcases about_names_cases lowerNames outside above with ⟨rest, apart, short, below⟩ | nothing
      · rw [below, below]
        exact Assignment.about_of_moreAt deeper apart short
      · rw [nothing, nothing]
    rw [about_middle, about_middle, spelled, same]

theorem about_of_differAt (differ : DifferAt leaf one other)
    (lower : ∀ name ∈ leaf, Text.lowercase name = name) (outside : ¬leaf <+: path)
    (above : ¬path <+: leaf) : about path one.assignments = about path other.assignments := by
  induction differ with
  | rel _ _ moreAt => exact about_of_moreAt moreAt lower outside above
  | refl => rfl
  | symm _ _ _ ih => exact ih.symm
  | trans _ _ _ _ _ first second => exact first.trans second

theorem sayTheSame_of_differAt {lower upper : List Layer} (differ : DifferAt leaf one other)
    (isLeaf : Settings.IsLeaf leaf) (lowercase : ∀ name ∈ leaf, Text.lowercase name = name)
    (isOther : Settings.IsLeaf path) (apart : path ≠ leaf) :
    SayTheSame path (lower ++ one :: upper) (lower ++ other :: upper) := by
  have same := about_of_differAt differ lowercase
    (fun leads => apart (isLeaf.eq_of_prefix isOther leads).symm)
    (fun leads => apart (isOther.eq_of_prefix isLeaf leads))
  simp only [SayTheSame, List.map_append, List.map_cons, same]

end Layer
end TreeShell
