import TreeShell.Proofs.ChildInsertion
import TreeShell.Proofs.Utf8Encoding
import TreeShell.Shell.Transcript

/-! The order of a listing. Names that agree but for case are still told apart by their own bytes, so
names of one folder are in a strict order, and only one list of its children descends in it. -/

namespace TreeShell

def Node.listed (child : Node) : ListingEntry :=
  ⟨child.name, child.kind⟩

namespace ListingEntry
open Text

variable {first second third : ListingEntry} {entries others : List ListingEntry}

/-- The first entry has the greater name: its lowercase form is the greater in the order of bytes, or
the lowercase forms agree and the name itself is. -/
def Above (first second : ListingEntry) : Prop :=
  Utf8.encode (lowercase second.name) < Utf8.encode (lowercase first.name) ∨
    lowercase first.name = lowercase second.name ∧ Utf8.encode second.name < Utf8.encode first.name

theorem above_iff : first.Above second ↔
    lowercase second.name < lowercase first.name ∨
      lowercase first.name = lowercase second.name ∧ second.name < first.name := by
  rw [Above, Utf8.encode_lt_encode_iff, Utf8.encode_lt_encode_iff]

theorem Above.irrefl (entry : ListingEntry) : ¬entry.Above entry := by
  rw [above_iff]
  rintro (lower | ⟨_, lower⟩)
  · exact String.lt_irrefl _ lower
  · exact String.lt_irrefl _ lower

theorem Above.trans (one : first.Above second) (two : second.Above third) : first.Above third := by
  rw [above_iff] at one two ⊢
  rcases one with lower | ⟨same, lower⟩
  · rcases two with further | ⟨same, _⟩
    · exact .inl (String.lt_trans further lower)
    · exact .inl (same ▸ lower)
  · rcases two with further | ⟨alike, further⟩
    · exact .inl (same ▸ further)
    · exact .inr ⟨same.trans alike, String.lt_trans further lower⟩

theorem Above.asymm (one : first.Above second) : ¬second.Above first :=
  fun two => Above.irrefl first (one.trans two)

theorem above_or_above (differ : first.name ≠ second.name) : first.Above second ∨ second.Above first := by
  simp only [above_iff]
  by_cases same : lowercase first.name = lowercase second.name
  · by_cases lower : second.name < first.name
    · exact .inl (.inr ⟨same, lower⟩)
    · exact .inr (.inr ⟨same.symm, Children.lt_of_not_lt_of_ne lower differ.symm⟩)
  · by_cases lower : lowercase second.name < lowercase first.name
    · exact .inl (.inl lower)
    · exact .inr (.inl (Children.lt_of_not_lt_of_ne lower (Ne.symm same)))

theorem precedes_iff : first.precedes second = true ↔ ¬second.Above first := by
  rw [above_iff, precedes]
  by_cases same : lowercase first.name = lowercase second.name
  · simp only [same, beq_self_eq_true, if_true, String.lt_irrefl, true_and, false_or]
    exact decide_eq_true_iff.trans String.not_lt.symm
  · have apart : lowercase second.name ≠ lowercase first.name := Ne.symm same
    simp only [beq_eq_false_iff_ne.mpr same, apart, false_and, or_false]
    refine decide_eq_true_iff.trans ⟨String.lt_asymm, fun notLower => ?_⟩
    exact Children.lt_of_not_lt_of_ne notLower same

private theorem above_of_precedes (precedes : first.precedes second = true) (differ : first.name ≠ second.name) :
    first.Above second :=
  (above_or_above differ).resolve_right (precedes_iff.mp precedes)

theorem precedes_total (first second : ListingEntry) :
    (first.precedes second || second.precedes first) = true := by
  rw [Bool.or_eq_true, precedes_iff, precedes_iff]
  by_cases above : first.Above second
  · exact .inl above.asymm
  · exact .inr above

theorem precedes_trans (first second third : ListingEntry) (one : first.precedes second = true)
    (two : second.precedes third = true) : first.precedes third = true := by
  rw [precedes_iff] at one two ⊢
  intro above
  refine two ?_
  by_cases same : first.name = second.name
  · unfold Above at above ⊢
    rwa [same] at above
  · exact above.trans ((above_or_above same).resolve_right one)

theorem eq_of_descending (one : entries.Pairwise Above) (two : others.Pairwise Above)
    (same : ∀ entry, entry ∈ entries ↔ entry ∈ others) : entries = others := by
  have distinct {list : List ListingEntry} (descends : list.Pairwise Above) : list.Nodup := by
    refine descends.imp fun above same => ?_
    subst same
    exact Above.irrefl _ above
  refine List.Perm.eq_of_pairwise (fun _ _ _ _ above below => absurd below above.asymm) one two ?_
  exact (List.perm_ext_iff_of_nodup (distinct one) (distinct two)).mpr same

theorem mergeSort_descends (distinct : (entries.map name).Nodup) :
    (entries.mergeSort precedes).Pairwise Above := by
  have sorted := List.pairwise_mergeSort precedes_trans precedes_total entries
  have apart : (entries.mergeSort precedes).Pairwise fun first second => first.name ≠ second.name := by
    have permuted := (List.mergeSort_perm entries precedes).map name
    exact List.pairwise_map.mp (permuted.nodup_iff.mpr distinct)
  exact (sorted.and apart).imp fun ⟨precedes, differ⟩ => above_of_precedes precedes differ

end ListingEntry

namespace FileTree

variable {tree : FileTree} {path : String} {folder : Node}

/-- What a listing says of children, under whatever keys they stand. -/
def listedAll (children : List (String × Node)) : List ListingEntry :=
  children.map fun entry => entry.2.listed

theorem listing_of_lookup (found : tree.lookup path = some folder) :
    tree.listing path = (listedAll folder.children).mergeSort ListingEntry.precedes := by
  rw [listing, found]
  rfl

theorem nodup_names (found : tree.lookup path = some folder) :
    ((listedAll folder.children).map ListingEntry.name).Nodup := by
  have consistent := consistent_of_lookup found
  have ordered := ordered_of_lookup found
  have keyed : (listedAll folder.children).map ListingEntry.name = folder.children.map Prod.fst := by
    rw [listedAll, List.map_map]
    exact List.map_congr_left fun entry member => (consistent.child member).2.1
  rw [keyed]
  cases folder with
  | folder name path children => exact (Node.ordered_folder_iff.mp ordered).1.nodup
  | file => exact List.nodup_nil

theorem listing_descends (found : tree.lookup path = some folder) :
    (tree.listing path).Perm (listedAll folder.children) ∧ (tree.listing path).Pairwise ListingEntry.Above := by
  rw [listing_of_lookup found]
  exact ⟨List.mergeSort_perm _ _, ListingEntry.mergeSort_descends (nodup_names found)⟩

/-- However the children of a folder are put in, they end up as that folder keeps them. -/
theorem foldlM_addChild_of_perm {added : List Node} (found : tree.lookup path = some folder)
    (isFolder : folder.isFolder = true) (same : added.Perm (folder.children.map Prod.snd)) :
    added.foldlM (fun grown child => child.addChild? grown) (.folder folder.name folder.path []) =
      some folder := by
  have consistent := consistent_of_lookup found
  have keyed : (folder.children.map Prod.snd).map (fun child => (child.name, child)) = folder.children := by
    rw [List.map_map]
    refine (List.map_congr_left fun entry member => ?_).trans (List.map_id _)
    exact Prod.ext (consistent.child member).2.1 rfl
  have entries : (added.map fun child => (child.name, child)).Perm folder.children :=
    keyed ▸ same.map fun child => (child.name, child)
  cases folder with
  | file => cases isFolder
  | folder name place children =>
    have ascending := (Node.ordered_folder_iff.mp (ordered_of_lookup found)).1
    have distinct : (added.map Node.name).Nodup := by
      have names := (entries.map Prod.fst).nodup_iff.mpr ascending.nodup
      simpa [Function.comp_def] using names
    rw [Children.foldlM_addChild, Children.insertAll_nil_eq_collect distinct]
    exact congrArg (some ∘ Node.folder name place) (Children.collect_of_perm ascending entries)

/-- The listing of a folder has every child of it once and nothing else, and it descends. No other list
does, so neither the order that children are kept in nor the order that they were added in tells in it.
Where there is no folder there is nothing to list. -/
theorem listing_arranges_children (tree : FileTree) (path : String) :
    (∀ folder, tree.lookup path = some folder → folder.isFolder = true →
      (tree.listing path).Perm (listedAll folder.children) ∧
      (tree.listing path).Pairwise ListingEntry.Above ∧
      (∀ entries : List ListingEntry, entries.Pairwise ListingEntry.Above →
        (∀ entry, entry ∈ entries ↔ entry ∈ listedAll folder.children) →
        entries = tree.listing path) ∧
      (∀ stored, stored.Perm folder.children →
        (listedAll stored).mergeSort ListingEntry.precedes = tree.listing path) ∧
      (∀ added : List Node, added.Perm (folder.children.map Prod.snd) →
        added.foldlM (fun grown child => child.addChild? grown) (.folder folder.name folder.path []) =
          some folder) ∧
      ∀ (other : FileTree) (place : String) (twin : Node), other.lookup place = some twin →
        (∀ entry, entry ∈ listedAll twin.children ↔ entry ∈ listedAll folder.children) →
        other.listing place = tree.listing path) ∧
    ((∀ folder, tree.lookup path = some folder → folder.isFolder = false) → tree.listing path = []) := by
  refine ⟨fun folder found isFolder => ?_, fun nowhere => ?_⟩
  · obtain ⟨perm, descends⟩ := listing_descends found
    have only (entries : List ListingEntry) (descending : entries.Pairwise ListingEntry.Above)
        (same : ∀ entry, entry ∈ entries ↔ entry ∈ listedAll folder.children) :
        entries = tree.listing path := by
      refine ListingEntry.eq_of_descending descending descends fun entry => ?_
      rw [same, perm.mem_iff]
    refine ⟨perm, descends, only, fun stored permuted => ?_,
      fun added permuted => foldlM_addChild_of_perm found isFolder permuted,
      fun other place twin there same => ?_⟩
    · have shown : (listedAll stored).Perm (listedAll folder.children) := permuted.map _
      have distinct := (shown.map ListingEntry.name).nodup_iff.mpr (nodup_names found)
      refine only _ (ListingEntry.mergeSort_descends distinct) fun entry => ?_
      rw [(List.mergeSort_perm ..).mem_iff, shown.mem_iff]
    · obtain ⟨twinPerm, twinDescends⟩ := listing_descends there
      exact only _ twinDescends fun entry => by rw [twinPerm.mem_iff, same]
  · cases found : tree.lookup path with
    | none => rw [listing, found]
    | some node =>
      cases node with
      | folder => exact absurd (nowhere _ found) nofun
      | file => simp [listing_of_lookup found, listedAll, Node.children]

end FileTree
end TreeShell
