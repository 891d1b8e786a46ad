import TreeShell.Path
import TreeShell.Proofs.TextRuns

/-! Canonical paths and the names on them. Reading a path as steps undoes putting
names below the root, however many separators stand between them. -/

namespace TreeShell.Path

/-- Text that a path can hold as a single step. -/
structure IsName (name : String) : Prop where
  filled : name ≠ ""
  single : separator ∉ name.toList

def below (path : String) (names : List String) : String :=
  names.foldl join path

theorem below_append (path : String) (first second : List String) :
    below path (first ++ second) = below (below path first) second :=
  List.foldl_append

theorem below_snoc (path : String) (names : List String) (name : String) :
    below path (names ++ [name]) = join (below path names) name := by
  rw [below_append]
  rfl

@[simp] theorem toList_join (parent name : String) :
    (join parent name).toList = parent.toList ++ separator :: name.toList := by
  simp [join, separator]

theorem join_left_injective {first second name : String} (same : join first name = join second name) :
    first = second := by
  have parts := congrArg String.toList same
  rw [toList_join, toList_join] at parts
  exact String.toList_inj.mp (List.append_cancel_right parts)

theorem segments_join (parent name : String) :
    segments (join parent name) = segments parent ++ segments name :=
  Text.runs_of_gap (by simp) (toList_join parent name)

theorem segments_name {name : String} (isName : IsName name) : segments name = [name] := by
  refine Text.runs_filled isName.filled fun character inside => ?_
  rw [beq_eq_false_iff_ne]
  rintro rfl
  exact isName.single inside

@[simp] theorem segments_empty : segments "" = [] :=
  Text.runs_empty

theorem segments_below {names : List String} (all : ∀ name ∈ names, IsName name)
    (path : String) : segments (below path names) = segments path ++ names := by
  induction names generalizing path with
  | nil => simp [below]
  | cons name rest ih =>
    have later := ih (fun other member => all other (List.mem_cons_of_mem _ member)) (join path name)
    have first := segments_name (all name List.mem_cons_self)
    change segments (below (join path name) rest) = _
    rw [later, segments_join, first, List.append_assoc]
    rfl

theorem isName_rootName : IsName rootName :=
  ⟨by decide, by decide⟩

theorem segments_root : segments root = [rootName] := by
  have whole : root = join "" rootName := by decide
  rw [whole, segments_join, segments_name isName_rootName, segments_empty]
  rfl

theorem steps_of_segments {path : String} {names : List String}
    (opened : segments path = rootName :: names) : steps path = names := by
  simp [steps, opened]

theorem segments_below_root {names : List String} (all : ∀ name ∈ names, IsName name) :
    segments (below root names) = rootName :: names := by
  rw [segments_below all, segments_root]
  rfl

@[simp] theorem steps_below_root {names : List String} (all : ∀ name ∈ names, IsName name) :
    steps (below root names) = names :=
  steps_of_segments (segments_below_root all)

theorem steps_join_below_root {names : List String} (all : ∀ name ∈ names, IsName name)
    (argument : String) : steps (join (below root names) argument) = names ++ segments argument := by
  apply steps_of_segments
  rw [segments_join, segments_below_root all]
  rfl

theorem below_root_injective {first second : List String} (one : ∀ name ∈ first, IsName name)
    (two : ∀ name ∈ second, IsName name) (same : below root first = below root second) :
    first = second := by
  rw [← steps_below_root one, same, steps_below_root two]

/-- The root's path with names after it: how a tree writes the paths of its nodes. -/
def Canonical (path : String) : Prop :=
  ∃ names, (∀ name ∈ names, IsName name) ∧ path = below root names

theorem canonical_root : Canonical root :=
  ⟨[], by simp, rfl⟩

theorem Canonical.below_steps {path : String} (canonical : Canonical path) :
    below root (steps path) = path := by
  obtain ⟨names, all, rfl⟩ := canonical
  rw [steps_below_root all]

/-! ### One closing separator -/

/-- Stripping takes off one closing separator that something stands before, or nothing. -/
theorem strip_cases (path : String) :
    (strip path = path ∧ (path.toList.getLast? = some separator → path = "/")) ∨
      (path = strip path ++ "/" ∧ strip path ≠ "") := by
  unfold strip
  split
  · rename_i last next rest reversed
    have whole : path.toList = (next :: rest).reverse ++ [last] := by
      rw [← List.reverse_reverse path.toList, reversed, List.reverse_cons]
    split
    · rename_i closed
      refine .inr ⟨String.toList_inj.mp ?_, ?_⟩
      · simpa [beq_iff_eq.mp closed, separator] using whole
      · simp
    · rename_i opened
      refine .inl ⟨rfl, fun closed => ?_⟩
      rw [whole, List.getLast?_concat] at closed
      exact absurd (by simpa using closed) opened
  · rename_i short
    refine .inl ⟨rfl, fun closed => ?_⟩
    cases reversed : path.toList.reverse with
    | nil => simp [List.reverse_eq_nil_iff.mp reversed] at closed
    | cons last rest =>
      cases rest with
      | cons next rest => exact absurd reversed (short last next rest)
      | nil =>
        have whole : path.toList = [last] := by
          rw [← List.reverse_reverse path.toList, reversed]
          rfl
        simp only [whole, List.getLast?_singleton, Option.some.injEq] at closed
        exact String.toList_inj.mp (by simp [whole, closed, separator])

theorem strip_closed {path : String} (named : path ≠ "") : strip (path ++ "/") = path := by
  have filled : path.toList ≠ [] := by simpa using named
  unfold strip
  cases reversed : path.toList.reverse with
  | nil => simp_all
  | cons last rest =>
    have whole : path.toList = (last :: rest).reverse := by
      rw [← reversed, List.reverse_reverse]
    simp only [String.toList_append, List.reverse_append, reversed]
    exact String.toList_inj.mp (by simp [whole, separator])

theorem strip_open {path : String} (opened : path.toList.getLast? ≠ some separator) :
    strip path = path := by
  rcases strip_cases path with ⟨same, _⟩ | ⟨closed, _⟩
  · exact same
  · refine absurd ?_ opened
    rw [congrArg String.toList closed, String.toList_append]
    exact List.getLast?_concat

@[simp] theorem segments_strip (path : String) : segments (strip path) = segments path := by
  rcases strip_cases path with ⟨same, _⟩ | ⟨closed, _⟩
  · rw [same]
  · have parted : path.toList = (strip path).toList ++ separator :: "".toList :=
      (congrArg String.toList closed).trans String.toList_append
    have cut : segments path = segments (strip path) ++ segments "" :=
      Text.runs_of_gap (by simp) parted
    simpa using cut.symm

theorem mem_strip {path : String} {character : Char} (member : character ∈ (strip path).toList) :
    character ∈ path.toList := by
  rcases strip_cases path with ⟨same, _⟩ | ⟨closed, _⟩
  · exact same ▸ member
  · rw [congrArg String.toList closed, String.toList_append]
    exact List.mem_append_left _ member

/-! ### The last separator -/

theorem splitLast_eq_none_iff {text : List Char} : splitLast text = none ↔ separator ∉ text := by
  induction text with
  | nil => simp [splitLast]
  | cons character rest ih =>
    cases later : splitLast rest with
    | none =>
      have absent := ih.mp later
      by_cases here : character = separator
      · simp [splitLast, later, here]
      · simp [splitLast, later, here, absent, Ne.symm here]
    | some parts =>
      have present : separator ∈ rest := by
        refine Decidable.of_not_not fun absent => ?_
        rw [ih.mpr absent] at later
        cases later
      simp [splitLast, later, present]

theorem splitLast_parted (before : List Char) {after : List Char} (single : separator ∉ after) :
    splitLast (before ++ separator :: after) = some (before, after) := by
  induction before with
  | nil => simp [splitLast, splitLast_eq_none_iff.mpr single]
  | cons character rest ih => simp [splitLast, ih]

theorem parted_of_splitLast {text before after : List Char}
    (parted : splitLast text = some (before, after)) :
    text = before ++ separator :: after ∧ separator ∉ after := by
  induction text generalizing before with
  | nil => cases parted
  | cons character rest ih =>
    simp only [splitLast] at parted
    cases later : splitLast rest with
    | some parts =>
      obtain ⟨first, second⟩ := parts
      rw [later] at parted
      cases parted
      obtain ⟨rfl, single⟩ := ih later
      exact ⟨rfl, single⟩
    | none =>
      rw [later] at parted
      by_cases here : character = separator
      · subst here
        simp only [BEq.rfl, if_true, Option.some.injEq, Prod.mk.injEq] at parted
        obtain ⟨rfl, rfl⟩ := parted
        exact ⟨rfl, splitLast_eq_none_iff.mp later⟩
      · simp [here] at parted

/-! ### Parents -/

@[simp] theorem parent?_root : parent? root = none := by
  simp [parent?]

theorem below_ne_empty {path : String} (filled : path ≠ "") (names : List String) :
    below path names ≠ "" := by
  induction names generalizing path with
  | nil => exact filled
  | cons name rest ih => exact ih (by simp [join])

theorem parent?_below_root {names : List String} {name : String}
    (all : ∀ other ∈ names ++ [name], IsName other) :
    parent? (below root (names ++ [name])) = some (below root names) := by
  have isName : IsName name := all name (by simp)
  have deeper : below root (names ++ [name]) ≠ root := fun same => by
    have counted := congrArg List.length (segments_below_root all)
    rw [same, segments_root] at counted
    simp at counted
  have parted : splitLast (below root (names ++ [name])).toList =
      some ((below root names).toList, name.toList) := by
    rw [below_snoc, toList_join, splitLast_parted _ isName.single]
  have filled : (below root names).toList ≠ [] := by
    simpa using below_ne_empty (by decide) names
  unfold parent?
  rw [if_neg (by simpa using deeper), parted]
  cases seen : (below root names).toList with
  | nil => exact absurd seen filled
  | cons first rest =>
    simp only
    rw [← seen, String.ofList_toList]

end TreeShell.Path
