import TreeShell.Proofs.TreeLookup

/-! Children put in one after another. Their order is that of their names, so it does not
matter in which order children with different names come. -/

namespace TreeShell.Children

variable {name : String} {child : Node} {children entries : List (String × Node)}

theorem lookup_insert (name : String) (child : Node) (children : List (String × Node)) :
    (insert name child children).lookup name = some child := by
  induction children with
  | nil => simp [insert]
  | cons head rest ih =>
    obtain ⟨key, node⟩ := head
    simp only [insert]
    split
    · simp
    · split
      · simp
      · rename_i _ differ
        rw [List.lookup_cons, beq_false_of_ne differ]
        exact ih

theorem insert_self (name : String) (child other : Node) (rest : List (String × Node)) :
    insert name child ((name, other) :: rest) = (name, child) :: rest := by
  rw [insert, if_neg (String.lt_irrefl name), if_pos rfl]

theorem insert_insert (name : String) (first second : Node) (children : List (String × Node)) :
    insert name second (insert name first children) = insert name second children := by
  induction children with
  | nil => exact insert_self name second first []
  | cons head rest ih =>
    obtain ⟨key, node⟩ := head
    by_cases lower : name < key
    · have before (child : Node) : insert name child ((key, node) :: rest) =
          (name, child) :: (key, node) :: rest := if_pos lower
      rw [before, before, insert_self]
    · by_cases same : name = key
      · rw [same, insert_self, insert_self, insert_self]
      · have behind (child : Node) (rest : List (String × Node)) :
            insert name child ((key, node) :: rest) = (key, node) :: insert name child rest := by
          rw [insert, if_neg lower, if_neg same]
        rw [behind, behind, behind, ih]

theorem insert_of_lookup (ascending : Ascending children) (found : children.lookup name = some child) :
    insert name child children = children := by
  induction children with
  | nil => cases found
  | cons head rest ih =>
    obtain ⟨key, node⟩ := head
    obtain ⟨above, ascends⟩ := ascending_cons.mp ascending
    by_cases same : name = key
    · subst same
      rw [List.lookup_cons_self] at found
      rw [Option.some.inj found]
      exact insert_self name child child rest
    · rw [List.lookup_cons, beq_false_of_ne same] at found
      obtain ⟨before, after, parted, _⟩ := List.lookup_eq_some_iff.mp found
      have later : (name, child) ∈ rest := parted ▸ List.mem_append_right _ List.mem_cons_self
      have notLower : ¬name < key := fun lower => String.lt_irrefl _ (String.lt_trans lower (above _ later))
      rw [insert, if_neg notLower, if_neg same, ih ascends found]

theorem insert_perm (free : name ∉ children.map Prod.fst) :
    (insert name child children).Perm ((name, child) :: children) := by
  induction children with
  | nil => exact .refl _
  | cons head rest ih =>
    obtain ⟨key, node⟩ := head
    obtain ⟨differ, free⟩ : name ≠ key ∧ name ∉ rest.map Prod.fst := by simpa using free
    rw [insert, if_neg differ]
    split
    · exact .refl _
    · exact ((ih free).cons _).trans (.swap ..)

private theorem insertNew_eq_insert (free : name ∉ children.map Prod.fst) :
    insertNew name child children = insert name child children := by
  induction children with
  | nil => rfl
  | cons head rest ih =>
    obtain ⟨key, node⟩ := head
    obtain ⟨differ, free⟩ : name ≠ key ∧ name ∉ rest.map Prod.fst := by simpa using free
    rw [insertNew, insert, if_neg differ, if_neg differ, ih free]

theorem collect_perm (distinct : (entries.map Prod.fst).Nodup) : (collect entries).Perm entries := by
  induction entries with
  | nil => exact .refl _
  | cons head rest ih =>
    obtain ⟨key, node⟩ := head
    obtain ⟨free, distinct⟩ := List.nodup_cons.mp distinct
    have collected := ih distinct
    have stillFree : key ∉ (collect rest).map Prod.fst :=
      fun member => free ((collected.map Prod.fst).mem_iff.mp member)
    have step : collect ((key, node) :: rest) = insertNew key node (collect rest) := rfl
    rw [step, insertNew_eq_insert stillFree]
    exact (insert_perm stillFree).trans (collected.cons _)

theorem eq_of_perm {first second : List (String × Node)} (one : Ascending first)
    (two : Ascending second) (same : first.Perm second) : first = second := by
  refine List.Perm.eq_of_pairwise ?_ (List.pairwise_map.mp one) (List.pairwise_map.mp two) same
  intro _ _ _ _ lower higher
  exact absurd (String.lt_trans lower higher) (String.lt_irrefl _)

theorem Ascending.nodup (ascending : Ascending children) : (children.map Prod.fst).Nodup :=
  List.Pairwise.imp (fun lower => String.ne_of_lt lower) ascending

theorem collect_of_perm (ascending : Ascending children) (same : entries.Perm children) :
    collect entries = children := by
  have distinct : (entries.map Prod.fst).Nodup := (same.map _).nodup_iff.mpr ascending.nodup
  exact eq_of_perm (ascending_collect entries) ascending ((collect_perm distinct).trans same)

def insertAll (children entries : List (String × Node)) : List (String × Node) :=
  entries.foldl (fun children entry => insert entry.1 entry.2 children) children

theorem insertAll_append (children first second : List (String × Node)) :
    insertAll children (first ++ second) = insertAll (insertAll children first) second :=
  List.foldl_append

theorem ascending_insertAll (ascending : Ascending children) : Ascending (insertAll children entries) := by
  induction entries generalizing children with
  | nil => exact ascending
  | cons entry rest ih => exact ih (ascending_insert ascending)

theorem insertAll_perm (distinct : (entries.map Prod.fst ++ children.map Prod.fst).Nodup) :
    (insertAll children entries).Perm (entries ++ children) := by
  induction entries generalizing children with
  | nil => exact .refl _
  | cons entry rest ih =>
    obtain ⟨free, others⟩ := List.nodup_cons.mp distinct
    have notEarlier := fun earlier => free (List.mem_append_right _ earlier)
    have inserted : (insert entry.1 entry.2 children).Perm (entry :: children) := insert_perm notEarlier
    have moved : (rest.map Prod.fst ++ (insert entry.1 entry.2 children).map Prod.fst).Perm
        (entry.1 :: (rest.map Prod.fst ++ children.map Prod.fst)) :=
      ((inserted.map Prod.fst).append_left _).trans List.perm_middle
    exact (ih (moved.nodup_iff.mpr distinct)).trans
      ((inserted.append_left rest).trans List.perm_middle)

/-- Put in one after another under their own names, children end up as they are collected. -/
theorem insertAll_nil_eq_collect {nodes : List Node} (distinct : (nodes.map Node.name).Nodup) :
    insertAll [] (nodes.map fun child => (child.name, child)) =
      collect (nodes.map fun child => (child.name, child)) := by
  have keyed : ((nodes.map fun child => (child.name, child)).map Prod.fst).Nodup := by
    simpa [Function.comp_def] using distinct
  have fresh : ((nodes.map fun child => (child.name, child)).map Prod.fst ++
      ([] : List (String × Node)).map Prod.fst).Nodup := by
    rwa [List.map_nil, List.append_nil]
  have inserted := insertAll_perm fresh
  rw [List.append_nil] at inserted
  exact eq_of_perm (ascending_insertAll .nil) (ascending_collect _)
    (inserted.trans (collect_perm keyed).symm)

/-- Of children with different names, each is found under its own and nothing else is. -/
theorem lookup_collect_iff {nodes : List Node} (distinct : (nodes.map Node.name).Nodup) :
    (collect (nodes.map fun child => (child.name, child))).lookup name = some child ↔
      child ∈ nodes ∧ child.name = name := by
  have keyed : ((nodes.map fun child => (child.name, child)).map Prod.fst).Nodup := by
    simpa [Function.comp_def] using distinct
  constructor
  · intro found
    obtain ⟨before, after, parted, _⟩ := List.lookup_eq_some_iff.mp found
    have member : (name, child) ∈ collect (nodes.map fun child => (child.name, child)) :=
      parted ▸ List.mem_append_right _ List.mem_cons_self
    obtain ⟨node, inside, same⟩ := List.mem_map.mp (mem_collect member)
    cases same
    exact ⟨inside, rfl⟩
  · rintro ⟨inside, rfl⟩
    refine lookup_of_mem (ascending_collect _) ((collect_perm keyed).mem_iff.mpr ?_)
    exact List.mem_map.mpr ⟨child, inside, rfl⟩

/-- A folder that children are added to one after another holds them as they are put in. -/
theorem foldlM_addChild (added : List Node) (name path : String) (children : List (String × Node)) :
    added.foldlM (fun grown child => child.addChild? grown) (.folder name path children) =
      some (.folder name path (insertAll children (added.map fun child => (child.name, child)))) := by
  induction added generalizing children with
  | nil => rfl
  | cons child rest ih => exact ih (insert child.name child children)

end TreeShell.Children
