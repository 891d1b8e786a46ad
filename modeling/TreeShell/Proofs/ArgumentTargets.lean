import TreeShell.Proofs.CompletionAliases
import TreeShell.Proofs.NodePaths

/-! What arguments lead to. An argument goes to the root, up by one folder or down by its names; so it
leads to a node, past the root or to nothing, and resolving it answers which of these it is. -/

namespace TreeShell

namespace FileTree
open TreeShell.Path

/-- What an argument leads to from the folder that these names lead to. -/
inductive Leads (tree : FileTree) (names : List String) : Option String → Node → Prop where
  | absent : Leads tree names none tree.root
  | root {typed} (aliased : typed ∈ rootAliases) : Leads tree names (some typed) tree.root
  | parent {typed above earlier last} (aliased : typed ∈ parentAliases)
      (parted : names = earlier ++ [last]) (reached : tree.root.Chain earlier above) :
      Leads tree names (some typed) above
  | down {typed node} (plain : typed ∉ parentAliases ++ rootAliases)
      (reached : tree.root.Chain (names ++ namesBetween typed) node) :
      Leads tree names (some typed) node

/-- An argument goes up from where there is nothing above. -/
structure Overshoots (names : List String) (typed : String) : Prop where
  aliased : typed ∈ parentAliases
  atTop : names = []

/-- What becomes of an argument, an error included. -/
inductive Resolves (tree : FileTree) (names : List String) :
    Option String → Except ShellError Node → Prop where
  | found {argument node} (leads : tree.Leads names argument node) :
      Resolves tree names argument (.ok node)
  | top {typed} (overshoots : Overshoots names typed) :
      Resolves tree names (some typed) (.error .noParentDirectory)
  | lost {typed} (nowhere : ∀ node, ¬tree.Leads names (some typed) node)
      (within : ¬Overshoots names typed) :
      Resolves tree names (some typed) (.error (.noSuchPath typed))

variable {tree : FileTree} {names : List String} {current typed : String} {folder node : Node}
  {argument : Option String} {cause : ShellError} {result : Except ShellError Node}

theorem aliases_apart (parental : typed ∈ parentAliases) : typed ∉ rootAliases := by
  have apart : ∀ other ∈ parentAliases, other ∉ rootAliases := by decide
  exact apart typed parental

theorem leads_of_rootAlias_iff (aliased : typed ∈ rootAliases) :
    tree.Leads names (some typed) node ↔ node = tree.root := by
  constructor
  · intro leads
    cases leads with
    | root => rfl
    | parent parental => exact absurd aliased (aliases_apart parental)
    | down plain => exact absurd (List.mem_append_right _ aliased) plain
  · rintro rfl
    exact .root aliased

theorem leads_of_parentAlias_iff (aliased : typed ∈ parentAliases) :
    tree.Leads names (some typed) node ↔
      ∃ earlier last, names = earlier ++ [last] ∧ tree.root.Chain earlier node := by
  constructor
  · intro leads
    cases leads with
    | root rooted => exact absurd rooted (aliases_apart aliased)
    | parent _ parted reached => exact ⟨_, _, parted, reached⟩
    | down plain => exact absurd (List.mem_append_left _ aliased) plain
  · rintro ⟨earlier, last, parted, reached⟩
    exact .parent aliased parted reached

theorem leads_of_plain_iff (plain : typed ∉ parentAliases ++ rootAliases) :
    tree.Leads names (some typed) node ↔ tree.root.Chain (names ++ namesBetween typed) node := by
  constructor
  · intro leads
    cases leads with
    | root aliased => exact absurd (List.mem_append_right _ aliased) plain
    | parent aliased => exact absurd (List.mem_append_left _ aliased) plain
    | down _ reached => exact reached
  · exact .down plain

theorem route_cases (typed : String) : typed ∈ rootAliases ∨ typed ∈ parentAliases ∨
    typed ∉ parentAliases ++ rootAliases := by
  by_cases rooted : typed ∈ rootAliases
  · exact .inl rooted
  · by_cases parental : typed ∈ parentAliases
    · exact .inr (.inl parental)
    · exact .inr (.inr fun aliased => (List.mem_append.mp aliased).elim parental rooted)

theorem chain_iff : tree.root.Chain names node ↔ tree.root.descend names = some node :=
  ⟨fun chain => chain.descend tree.ordered, .of_descend⟩

theorem resolve_eq_ok_iff_leads (here : tree.FolderAt current folder)
    (reached : tree.root.descend names = some folder) :
    tree.resolve current argument = .ok node ↔ tree.Leads names argument node := by
  obtain ⟨all, placed⟩ := path_of_descend reached
  rw [here.path_eq] at placed
  cases argument with
  | none =>
    constructor
    · intro resolved
      cases resolved
      exact .absent
    · rintro ⟨⟩
      rfl
  | some typed =>
    rcases route_cases typed with rooted | parental | plain
    · rw [leads_of_rootAlias_iff rooted, resolve_rootAlias rooted, Except.ok.injEq, eq_comm]
    · rw [leads_of_parentAlias_iff parental, resolve_of_parentAlias parental, placed]
      rcases List.eq_nil_or_concat names with rfl | ⟨earlier, last, ended⟩
      · have atTop : parent? (below Path.root []) = none := parent?_root
        rw [atTop]
        simp
      · obtain rfl := ended.trans (List.concat_eq_append ..)
        have spelled : ∀ name ∈ earlier, IsName name :=
          fun name member => all name (List.mem_append_left _ member)
        simp only [parent?_below_root all, locate_eq_ok_iff, lookup_below spelled, chain_iff]
        constructor
        · intro above
          exact ⟨earlier, last, rfl, above⟩
        · rintro ⟨other, final, same, above⟩
          rwa [(List.append_inj' same rfl).1]
    · rw [leads_of_plain_iff plain, here.resolve_eq_ok_iff (isRelative_iff.mpr plain), chain_iff,
        segments_eq_namesBetween, Node.descend_append_of reached]

theorem resolve_error_cases (failed : tree.resolve current (some typed) = .error cause) :
    (cause = .noParentDirectory ∧ typed ∈ parentAliases ∧ parent? current = none) ∨
      cause = .noSuchPath typed := by
  have located {path : String} (missing : tree.locate path typed = .error cause) :
      cause = .noSuchPath typed := by
    unfold locate at missing
    split at missing
    · cases missing
    · exact (Except.error.inj missing).symm
  rcases route_cases typed with rooted | parental | plain
  · rw [resolve_rootAlias rooted] at failed
    cases failed
  · rw [resolve_of_parentAlias parental] at failed
    split at failed
    · rename_i atTop
      exact .inl ⟨(Except.error.inj failed).symm, parental, atTop⟩
    · exact .inr (located failed)
  · rw [resolve_of_isRelative (isRelative_iff.mpr plain)] at failed
    exact .inr (located failed)

theorem parent?_eq_none_iff (here : tree.FolderAt current folder)
    (reached : tree.root.descend names = some folder) : parent? current = none ↔ names = [] := by
  obtain ⟨all, placed⟩ := path_of_descend reached
  rw [← here.path_eq, placed]
  rcases List.eq_nil_or_concat names with rfl | ⟨earlier, last, ended⟩
  · exact iff_of_true parent?_root rfl
  · obtain rfl := ended.trans (List.concat_eq_append ..)
    rw [parent?_below_root all]
    simp

private theorem not_leads_of_overshoots (overshoots : Overshoots names typed) :
    ¬tree.Leads names (some typed) node := by
  rw [leads_of_parentAlias_iff overshoots.aliased, overshoots.atTop]
  rintro ⟨earlier, last, parted, _⟩
  simp at parted

theorem resolves (here : tree.FolderAt current folder)
    (reached : tree.root.descend names = some folder) (argument : Option String) :
    tree.Resolves names argument (tree.resolve current argument) := by
  have leads {node : Node} : tree.resolve current argument = .ok node ↔ tree.Leads names argument node :=
    resolve_eq_ok_iff_leads here reached
  cases resolved : tree.resolve current argument with
  | ok node => exact .found (leads.mp resolved)
  | error cause =>
    cases argument with
    | none => cases resolved
    | some typed =>
      have nowhere (node : Node) : ¬tree.Leads names (some typed) node := by
        rw [← leads, resolved]
        exact nofun
      rcases resolve_error_cases resolved with ⟨rfl, parental, atTop⟩ | rfl
      · exact .top ⟨parental, (parent?_eq_none_iff here reached).mp atTop⟩
      · refine .lost nowhere fun overshoots => ?_
        rw [resolve_of_parentAlias overshoots.aliased,
          (parent?_eq_none_iff here reached).mpr overshoots.atTop] at resolved
        cases resolved

theorem resolve_eq_iff (here : tree.FolderAt current folder)
    (reached : tree.root.descend names = some folder) :
    tree.resolve current argument = result ↔ tree.Resolves names argument result := by
  constructor
  · rintro rfl
    exact resolves here reached argument
  · intro outcome
    have answered := resolves here reached argument
    cases outcome with
    | found leads => exact (resolve_eq_ok_iff_leads here reached).mpr leads
    | top overshoots =>
      generalize tree.resolve current _ = answer at answered
      cases answered with
      | found leads => exact absurd leads (not_leads_of_overshoots overshoots)
      | top => rfl
      | lost _ within => exact absurd overshoots within
    | lost nowhere within =>
      generalize tree.resolve current _ = answer at answered
      cases answered with
      | found leads => exact absurd leads (nowhere _)
      | top overshoots => exact absurd overshoots within
      | lost => rfl

end FileTree
end TreeShell
