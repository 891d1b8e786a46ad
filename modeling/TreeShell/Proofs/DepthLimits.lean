import TreeShell.Proofs.ChangeRelevance
import TreeShell.Proofs.Outcomes
import TreeShell.Proofs.TreeTruncation
import TreeShell.Proofs.TreeValidation

/-! Trees built with a limit on their depth. A walk with a limit meets what the walk without one meets,
except for what lies deeper, so the two trees grow side by side and the one with the limit is at every
moment the other cut off. The limit that counts is never less than one: the entries of the source are
met even if none are asked for. -/

namespace TreeShell

namespace WalkRules

def unlimited (rules : WalkRules) : WalkRules :=
  { rules with maxDepth := none }

/-- Something was met, and no deeper than the rules reach. -/
def admits (rules : WalkRules) : Except WalkError Encounter → Bool
  | .ok encounter => rules.reaches encounter.names.length
  | .error _ => false

end WalkRules

namespace Walk

variable {rules : WalkRules} {names : List String} {name : String} {met : List (Except WalkError Encounter)}
  {cross other : Spot → String → List (Except WalkError Encounter)}

theorem filter_unlessIgnored (rules : WalkRules) (name : String) (met : List (Except WalkError Encounter)) :
    (unlessIgnored rules.unlimited name met).filter rules.admits =
      unlessIgnored rules name (met.filter rules.admits) := by
  unfold unlessIgnored
  have same : rules.unlimited.ignores name = rules.ignores name := rfl
  rw [same]
  split <;> rfl

private theorem Passes.filter_eq_nil (passes : Passes rules.unlimited names met)
    (far : rules.reaches (names.length + 1) = false) : met.filter rules.admits = [] := by
  refine List.filter_eq_nil_iff.mpr fun found member admitted => ?_
  cases found with
  | error cause => cases admitted
  | ok encounter =>
    obtain ⟨rest, below, further, _⟩ := passes encounter member
    have deeper : names.length + 1 ≤ encounter.names.length := by
      have filled := List.length_pos_iff.mpr further
      rw [below, List.length_append]
      omega
    rw [WalkRules.reaches_of_deeper admitted deeper] at far
    cases far

mutual
private theorem item_eq_filter (noLinks : rules.followLinks = false) (across : LinksPass rules.unlimited other) :
    (found : Item) → ∀ (spot : Spot) (name : String), rules.reaches (spot.names.length + 1) = true →
      item rules cross spot name found = (item rules.unlimited other spot name found).filter rules.admits
  | .directory inside, spot, name, near => by
    have counted : (spot.below name).names.length = spot.names.length + 1 := by
      simp [Spot.below]
    have here : rules.admits (.ok ⟨spot.names ++ [name], .directory inside⟩) = true := by
      simpa [WalkRules.admits] using near
    have behind : (if rules.reaches (spot.names.length + 2) then
          entries rules cross (spot.below name) inside else []) =
        (entries rules.unlimited other (spot.below name) inside).filter rules.admits := by
      split
      · rename_i nearer
        exact entries_eq_filter noLinks across inside (spot.below name) (by rwa [counted])
      · rename_i far
        have passes := passes_entries across inside (spot.below name) rfl
        refine (passes.filter_eq_nil ?_).symm
        rw [counted]
        exact Bool.eq_false_iff.mpr far
    have reached : rules.unlimited.reaches (spot.names.length + 2) = true := rfl
    rw [item, item, filter_unlessIgnored, List.filter_cons_of_pos here, if_pos reached, behind]
  | .file bytes mode, spot, name, near => by
    have here : rules.admits (.ok ⟨spot.names ++ [name], .file bytes mode⟩) = true := by
      simpa [WalkRules.admits] using near
    rw [item, item, filter_unlessIgnored, List.filter_cons_of_pos here, List.filter_nil]
  | .link target, spot, name, near => by
    have here : rules.admits (.ok ⟨spot.names ++ [name], .link target⟩) = true := by
      simpa [WalkRules.admits] using near
    have stays : rules.unlimited.followLinks = false := noLinks
    rw [item, item, noLinks, stays]
    simp only [Bool.false_eq_true, if_false]
    rw [filter_unlessIgnored, List.filter_cons_of_pos here, List.filter_nil]

theorem entries_eq_filter (noLinks : rules.followLinks = false) (across : LinksPass rules.unlimited other) :
    (inside : List (String × Item)) → ∀ spot : Spot, rules.reaches (spot.names.length + 1) = true →
      entries rules cross spot inside = (entries rules.unlimited other spot inside).filter rules.admits
  | [], _, _ => rfl
  | (name, found) :: rest, spot, near => by
    rw [entries, entries, List.filter_append, item_eq_filter noLinks across found spot name near,
      entries_eq_filter noLinks across rest spot near]
end

end Walk

theorem Disk.walk_eq_filter {rules : WalkRules} (noLinks : rules.followLinks = false) (disk : Disk)
    (place : List String) (entries : List (String × Item)) :
    disk.walk rules place entries = (disk.walk rules.unlimited place entries).filter rules.admits :=
  Walk.entries_eq_filter noLinks (Walk.linksPass_cross disk place _) entries ⟨[], place, [place]⟩
    rules.reaches_one

namespace Builder
open Node

/-- What comes of a tree when something is put into it. -/
inductive Adds (root next : { root : Node // root.Ordered }) : List String → Item → Prop where
  | source {item} (same : next = root) : Adds root next [] item
  | skipped {names name item} (skipped : nodeOf? name item = none) (same : next = root) :
      Adds root next (names ++ [name]) item
  | made {names name item make} (made : nodeOf? name item = some make)
      (placed : root.val.placeChild? make names = some next.val) : Adds root next (names ++ [name]) item

variable {source names : List String} {name : String} {item : Item} {make : String → Node} {levels : Nat}
  {root next : { root : Node // root.Ordered }} {met : List (Except WalkError Encounter)}
  {rules : WalkRules} {whole : FileTree}

theorem adds_of_add (added : add source root (.ok ⟨names, item⟩) = .ok next) :
    Adds root next names item := by
  rcases List.eq_nil_or_concat names with rfl | ⟨earlier, name, rfl⟩
  · cases added
    exact .source rfl
  · rw [List.concat_eq_append] at added ⊢
    simp only [add, List.getLast?_concat] at added
    split at added
    · rename_i skipped
      exact .skipped skipped (Except.ok.inj added).symm
    · rename_i make made
      split at added
      · cases added
      · rename_i result placed
        rw [List.dropLast_concat] at placed
        cases added
        exact .made made placed

private theorem childless_of_nodeOf? (made : nodeOf? name item = some make) (path : String) :
    (make path).children = [] := by
  cases item with
  | link => cases made
  | directory | file =>
    cases made
    rfl

def cut (levels : Nat) (root : { root : Node // root.Ordered }) : { root : Node // root.Ordered } :=
  ⟨root.val.truncate levels, root.property.truncate levels⟩

private theorem add_cut_near (added : add source root (.ok ⟨names, item⟩) = .ok next)
    (near : names.length ≤ levels) :
    add source (cut levels root) (.ok ⟨names, item⟩) = .ok (cut levels next) := by
  cases adds_of_add added with
  | source same =>
    rw [same]
    rfl
  | skipped skipped same =>
    rw [same]
    exact add_skipped skipped (cut levels root)
  | made made placed =>
    rw [List.length_append] at near
    have kept := placeChild?_truncate (fun path => truncate_of_childless (childless_of_nodeOf? made path))
      placed near
    obtain ⟨_, done⟩ := @add_made source _ _ item _ made (cut levels root) _ kept
    exact done

private theorem add_cut_far (added : add source root (.ok ⟨names, item⟩) = .ok next)
    (far : levels < names.length) : cut levels next = cut levels root := by
  cases adds_of_add added with
  | source same => rw [same]
  | skipped _ same => rw [same]
  | made made placed =>
    rw [List.length_append] at far
    exact Subtype.ext (truncate_of_placeChild? root.property placed (Nat.le_of_lt_succ far))

theorem foldlM_cut (limit : ∀ depth, rules.reaches depth = decide (depth ≤ levels))
    (walked : met.foldlM (add source) root = .ok next) :
    (met.filter rules.admits).foldlM (add source) (cut levels root) = .ok (cut levels next) := by
  induction met generalizing root with
  | nil =>
    cases walked
    rfl
  | cons found rest ih =>
    rw [List.foldlM_cons] at walked
    obtain ⟨middle, added, further⟩ := bind_eq_ok_iff.mp walked
    have later := ih further
    cases found with
    | error cause => cases cause <;> cases added
    | ok encounter =>
      obtain ⟨names, item⟩ := encounter
      have judged : rules.admits (.ok ⟨names, item⟩) = decide (names.length ≤ levels) := limit names.length
      by_cases near : names.length ≤ levels
      · rw [List.filter_cons_of_pos (judged.trans (decide_eq_true near)), List.foldlM_cons,
          add_cut_near added near]
        exact later
      · rw [List.filter_cons_of_neg (by simp [judged, near]), ← add_cut_far added (Nat.lt_of_not_le near)]
        exact later

private theorem assemble_filter (limit : ∀ depth, rules.reaches depth = decide (depth ≤ levels))
    (assembled : assemble source met = .ok whole) :
    assemble source (met.filter rules.admits) = .ok (whole.truncate levels) := by
  obtain ⟨⟨root, ordered⟩, walked, accepted⟩ := bind_eq_ok_iff.mp assembled
  obtain rfl : whole.root = root := FileTree.root_of_ofNode (mapError_eq_ok_iff.mp accepted)
  have start : cut levels ⟨rootFolder [], ordered_collected (by simp)⟩ =
      ⟨rootFolder [], ordered_collected (by simp)⟩ := Subtype.ext (truncate_of_childless rfl levels)
  have followed := foldlM_cut limit walked
  rw [start] at followed
  refine bind_eq_ok_iff.mpr ⟨_, followed, mapError_eq_ok_iff.mpr ?_⟩
  exact @FileTree.ofNode_root (whole.truncate levels) _

theorem build_limited {source : DiskPath} {ignore : List String} {disk : Disk}
    (built : build ⟨source, ⟨false, ignore, none⟩⟩ disk = .ok whole) (bound : Nat) :
    build ⟨source, ⟨false, ignore, some bound⟩⟩ disk = .ok (whole.truncate (max 1 bound)) := by
  unfold build at built ⊢
  split at built
  · cases built
  · rename_i place entries located
    have limit (depth : Nat) : WalkRules.reaches ⟨false, ignore, some bound⟩ depth =
        decide (depth ≤ max 1 bound) := rfl
    have assembled : assemble place (disk.walk ⟨false, ignore, none⟩ place entries) = .ok whole := built
    simp only [located]
    rw [Disk.walk_eq_filter rfl]
    exact assemble_filter limit assembled
  · cases built

/-- A walk with a limit builds the tree that the walk without one builds, cut off at the limit or, if the
limit is zero, at one. So only a limit of zero is missed, and only if there is something in the source. -/
theorem limited_build_truncates {source : DiskPath} {ignore : List String} {disk : Disk}
    (built : build ⟨source, ⟨false, ignore, none⟩⟩ disk = .ok whole) (bound : Nat) :
    ∃ limited, build ⟨source, ⟨false, ignore, some bound⟩⟩ disk = .ok limited ∧
      limited = whole.truncate (max 1 bound) ∧
      (∀ names node, limited.root.descend names = some node ↔ names.length ≤ max 1 bound ∧
        ∃ original, whole.root.descend names = some original ∧
          node = original.truncate (max 1 bound - names.length)) ∧
      (limited = whole.truncate bound ↔ bound ≠ 0 ∨ whole.root.children = []) ∧
      (limited.root.Within bound ↔ bound ≠ 0 ∨ whole.root.children = []) := by
  refine ⟨_, build_limited built bound, rfl, fun names node => ?_, ?_, ?_⟩
  · exact descend_truncate_iff
  · rw [FileTree.truncate_eq_iff, truncate_max_one_eq_iff]
  · exact within_truncate_max_one_iff

/-- A source with a folder in a folder, and a file beside them. -/
def layeredDisk : Disk :=
  ⟨.directory [("s", .directory
    [("Docs", .directory [("old", .directory [])]), ("about", .file [0x78] 0o644)])], []⟩

def layeredRoot : Node :=
  .rootFolder
    [.folderUnder "/Home" "Docs" [.folderUnder "/Home/Docs" "old" []],
      .fileUnder "/Home" "about" "x" false]

theorem build_layeredDisk : ∃ whole : FileTree,
    build ⟨"s", ⟨false, WalkRules.standard.ignore, none⟩⟩ layeredDisk = .ok whole ∧
      whole.root = layeredRoot := by
  have made : (build ⟨"s", ⟨false, WalkRules.standard.ignore, none⟩⟩ layeredDisk).toOption.map
      FileTree.root = some layeredRoot := by decide +kernel
  cases built : build ⟨"s", ⟨false, WalkRules.standard.ignore, none⟩⟩ layeredDisk with
  | error cause =>
    rw [built] at made
    cases made
  | ok whole =>
    rw [built] at made
    exact ⟨whole, rfl, Option.some.inj made⟩

/-- Where nothing below the source is asked for, its entries come all the same. -/
theorem zero_limit_keeps_entries : ∃ whole limited : FileTree,
    build ⟨"s", ⟨false, WalkRules.standard.ignore, none⟩⟩ layeredDisk = .ok whole ∧
      build ⟨"s", ⟨false, WalkRules.standard.ignore, some 0⟩⟩ layeredDisk = .ok limited ∧
      limited ≠ whole.truncate 0 ∧
      limited.root.descend ["about"] = some (.fileUnder "/Home" "about" "x" false) := by
  obtain ⟨whole, built, same⟩ := build_layeredDisk
  refine ⟨whole, _, built, build_limited built 0, ?_, ?_⟩
  · rw [ne_eq, FileTree.truncate_eq_iff, truncate_max_one_eq_iff, same]
    decide
  · refine descend_truncate_iff.mpr ⟨Nat.le_refl 1, .fileUnder "/Home" "about" "x" false, ?_, rfl⟩
    rw [same]
    decide

theorem limit_on_layeredDisk : ∃ whole limited : FileTree,
    build ⟨"s", ⟨false, WalkRules.standard.ignore, none⟩⟩ layeredDisk = .ok whole ∧
      build ⟨"s", ⟨false, WalkRules.standard.ignore, some 1⟩⟩ layeredDisk = .ok limited ∧
      limited = whole.truncate 1 ∧ limited.root.Within 1 ∧
      limited.root.descend ["Docs"] = some (.folderUnder "/Home" "Docs" []) := by
  obtain ⟨whole, built, same⟩ := build_layeredDisk
  obtain ⟨limited, bounded, _, stands, exact, within⟩ := limited_build_truncates built 1
  have positive : 1 ≠ 0 ∨ whole.root.children = [] := .inl (by decide)
  refine ⟨whole, limited, built, bounded, exact.mpr positive, within.mpr positive, ?_⟩
  refine (stands ["Docs"] _).mpr ⟨Nat.le_refl 1, .folderUnder "/Home" "Docs"
    [.folderUnder "/Home/Docs" "old" []], ?_, by decide⟩
  rw [same]
  decide

end Builder
end TreeShell
