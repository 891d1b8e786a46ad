import TreeShell.Proofs.DirectoryImage
import TreeShell.Reload

/-! Changes below a directory that is watched, and the walk that builds its tree. The walk judges
the names below the source, and a change is judged by all components of its path. The two agree
where no component of the source's own path is ignored, and nowhere else. -/

namespace TreeShell

namespace WalkRules

/-- No component is a name that is ignored. -/
def Clears (rules : WalkRules) (components : List DiskPath.Component) : Prop :=
  ∀ component ∈ components, rules.ignores component.text = false

instance (rules : WalkRules) : DecidablePred rules.Clears :=
  fun components => inferInstanceAs (Decidable (∀ component ∈ components, _))

/-- The path lies below the base, and no component on the way is ignored. -/
def Shows (rules : WalkRules) (base path : DiskPath) : Prop :=
  ∃ rest, path.components = base.components ++ rest ∧ rules.Clears rest

/-- The path lies below the base, and some component on the way is ignored. -/
def Hides (rules : WalkRules) (base path : DiskPath) : Prop :=
  ∃ rest, path.components = base.components ++ rest ∧ ¬rules.Clears rest

variable {rules : WalkRules} {base path : DiskPath} {names : List String} {depth later : Nat}

theorem clears_append_iff {first second : List DiskPath.Component} :
    rules.Clears (first ++ second) ↔ rules.Clears first ∧ rules.Clears second :=
  List.forall_mem_append

private theorem clears_names_iff :
    rules.Clears (names.map .name) ↔ ∀ name ∈ names, rules.ignores name = false :=
  List.forall_mem_map

theorem shows_iff (below : path.components = base.components ++ names.map .name) :
    rules.Shows base path ↔ ∀ name ∈ names, rules.ignores name = false := by
  rw [← clears_names_iff]
  constructor
  · rintro ⟨rest, same, clear⟩
    rw [List.append_cancel_left (below.symm.trans same)]
    exact clear
  · intro clear
    exact ⟨_, below, clear⟩

theorem reaches_one (rules : WalkRules) : rules.reaches 1 = true := by
  unfold reaches
  split
  · rfl
  · exact decide_eq_true (Nat.le_max_left 1 _)

theorem reaches_of_deeper (deeper : rules.reaches later = true) (above : depth ≤ later) :
    rules.reaches depth = true := by
  unfold reaches at deeper ⊢
  split at deeper
  · rfl
  · exact decide_eq_true (Nat.le_trans above (of_decide_eq_true deeper))

end WalkRules

namespace Walk

/-- Everything met lies below some names, no deeper than the rules reach, and no name from there
on is ignored. -/
def Passes (rules : WalkRules) (names : List String) (met : List (Except WalkError Encounter)) :
    Prop :=
  ∀ encounter, .ok encounter ∈ met → ∃ rest, encounter.names = names ++ rest ∧ rest ≠ [] ∧
    rules.reaches encounter.names.length = true ∧ ∀ name ∈ rest, rules.ignores name = false

/-- The same of everything met behind links, wherever the walk comes upon them. -/
def LinksPass (rules : WalkRules) (cross : Spot → String → List (Except WalkError Encounter)) :
    Prop :=
  ∀ spot name, rules.reaches (spot.names.length + 1) = true →
    Passes rules spot.names (cross spot name)

variable {rules : WalkRules} {cross : Spot → String → List (Except WalkError Encounter)}
  {names : List String} {name : String} {met later : List (Except WalkError Encounter)}

theorem Passes.nil : Passes rules names [] := by
  intro encounter member
  cases member

theorem Passes.append (first : Passes rules names met) (second : Passes rules names later) :
    Passes rules names (met ++ later) := by
  intro encounter member
  rcases List.mem_append.mp member with here | there
  · exact first encounter here
  · exact second encounter there

theorem Passes.ignoring (behind : Passes rules (names ++ [name]) met) {item : Item}
    (near : rules.reaches (names.length + 1) = true) :
    Passes rules names (unlessIgnored rules name (.ok ⟨names ++ [name], item⟩ :: met)) := by
  unfold unlessIgnored
  split
  · exact .nil
  · rename_i seen
    have visible : rules.ignores name = false := Bool.eq_false_iff.mpr seen
    intro encounter member
    rcases List.mem_cons.mp member with same | further
    · cases same
      exact ⟨[name], rfl, by simp, by simpa using near, by simpa using visible⟩
    · obtain ⟨rest, same, _, reached, clear⟩ := behind encounter further
      refine ⟨name :: rest, ?_, by simp, reached, List.forall_mem_cons.mpr ⟨visible, clear⟩⟩
      rw [same, List.append_assoc, List.singleton_append]

mutual
private theorem passes_item (across : LinksPass rules cross) :
    (found : Item) → ∀ (spot : Spot) (name : String), rules.reaches (spot.names.length + 1) = true →
      Passes rules spot.names (item rules cross spot name found)
  | .directory inside, spot, name, near => by
    have behind : Passes rules (spot.names ++ [name])
        (if rules.reaches (spot.names.length + 2) then entries rules cross (spot.below name) inside
          else []) := by
      split
      · rename_i nearer
        exact passes_entries across inside (spot.below name) (by simpa [Spot.below] using nearer)
      · exact .nil
    exact behind.ignoring near
  | .file .., spot, name, near => Passes.nil.ignoring near
  | .link target, spot, name, near => by
    unfold item
    split
    · exact across spot name near
    · exact Passes.nil.ignoring near

theorem passes_entries (across : LinksPass rules cross) :
    (inside : List (String × Item)) → ∀ spot : Spot, rules.reaches (spot.names.length + 1) = true →
      Passes rules spot.names (entries rules cross spot inside)
  | [], _, _ => .nil
  | (name, found) :: rest, spot, near =>
    (passes_item across found spot name near).append (passes_entries across rest spot near)
end

/-- Crossing links keeps to this: the name of a link is judged before the walk goes on behind it. -/
theorem linksPass_cross (disk : Disk) (source : List String) (links : Nat) :
    LinksPass rules (Walk.cross disk rules source links) := by
  induction links with
  | zero => exact fun _ _ _ => .nil
  | succ links ih =>
    intro spot name near
    have failing (cause : WalkError) : Passes rules spot.names [.error cause] := by
      intro encounter member
      cases List.mem_singleton.mp member
    simp only [Walk.cross]
    split
    · exact failing _
    · exact failing _
    · split
      · exact failing _
      · refine Passes.ignoring ?_ near
        split
        · rename_i nearer
          exact passes_entries ih _ _ nearer
        · exact .nil
    · exact Passes.nil.ignoring near

theorem mem_entries {spot : Spot} {inside : List (String × Item)} {found : Item}
    {encounter : Except WalkError Encounter} (there : inside.lookup name = some found)
    (member : encounter ∈ item rules cross spot name found) :
    encounter ∈ entries rules cross spot inside := by
  induction inside with
  | nil => cases there
  | cons entry rest ih =>
    obtain ⟨key, other⟩ := entry
    rw [List.lookup_cons] at there
    rw [entries, List.mem_append]
    split at there
    · rename_i same
      cases eq_of_beq same
      cases there
      exact .inl member
    · exact .inr (ih there)

/-- What stands at names that are not ignored and not too deep is met, unless it is a link and
links are followed. -/
private theorem mem_entries_of_find? {inside : List (String × Item)} {found : Item} {spot : Spot}
    (there : (Item.directory inside).find? names = some found) (below : names ≠ [])
    (kept : ∀ target, found = .link target → rules.followLinks = false)
    (near : rules.reaches (spot.names.length + names.length) = true)
    (clear : ∀ name ∈ names, rules.ignores name = false) :
    .ok ⟨spot.names ++ names, found⟩ ∈ entries rules cross spot inside := by
  induction names generalizing inside spot with
  | nil => exact absurd rfl below
  | cons name rest ih =>
    obtain ⟨visible, clear⟩ := List.forall_mem_cons.mp clear
    cases rest with
    | nil =>
      refine mem_entries (Item.find?_single.mp there) ?_
      cases found with
      | directory inner => simp [item, unlessIgnored, visible]
      | file bytes mode => simp [item, unlessIgnored, visible]
      | link target => simp [item, unlessIgnored, visible, kept target rfl]
    | cons second later =>
      obtain ⟨inner, here, deeper⟩ := (Item.find?_cons_iff (by simp)).mp there
      have nearer : rules.reaches (spot.names.length + 2) = true :=
        WalkRules.reaches_of_deeper near (by simp)
      have counted : (spot.below name).names.length + (second :: later).length =
          spot.names.length + (name :: second :: later).length := by
        simp [Spot.below]
        omega
      have met : .ok ⟨(spot.below name).names ++ second :: later, found⟩ ∈
          entries rules cross (spot.below name) inner :=
        ih deeper (by simp) (by rwa [counted]) clear
      refine mem_entries here ?_
      rw [item, unlessIgnored, visible, if_pos nearer]
      refine List.mem_cons_of_mem _ ?_
      simpa [Spot.below] using met

end Walk

namespace Disk

variable {disk : Disk} {rules : WalkRules} {place names : List String}
  {entries : List (String × Item)} {item : Item}

theorem clear_of_mem_walk (met : .ok ⟨names, item⟩ ∈ disk.walk rules place entries) :
    names ≠ [] ∧ rules.reaches names.length = true ∧ ∀ name ∈ names, rules.ignores name = false := by
  have passes : Walk.Passes rules [] (disk.walk rules place entries) :=
    Walk.passes_entries (Walk.linksPass_cross disk place _) entries ⟨[], place, [place]⟩
      rules.reaches_one
  obtain ⟨rest, same, below, near, clear⟩ := passes _ met
  cases same
  exact ⟨below, near, clear⟩

/-- A walk meets what stands at some names if they are not too deep and none of them is ignored. -/
theorem mem_walk_iff (found : (Item.directory entries).find? names = some item) (below : names ≠ [])
    (kept : ∀ target, item = .link target → rules.followLinks = false) :
    .ok ⟨names, item⟩ ∈ disk.walk rules place entries ↔
      rules.reaches names.length = true ∧ ∀ name ∈ names, rules.ignores name = false := by
  constructor
  · intro met
    exact (clear_of_mem_walk met).2
  · rintro ⟨near, clear⟩
    have counted : rules.reaches (0 + names.length) = true := by rwa [Nat.zero_add]
    exact Walk.mem_entries_of_find? found below kept counted clear

end Disk

namespace Builder

/-- Walking through its source, the builder meets the item at these names. -/
def Meets (builder : Builder) (disk : Disk) (names : List String) (item : Item) : Prop :=
  ∃ place entries, disk.locate builder.source = .ok (place, .directory entries) ∧
    .ok ⟨names, item⟩ ∈ disk.walk builder.rules place entries

/-- The item stands at these names below the source, with no link on the way. -/
def Holds (builder : Builder) (disk : Disk) (names : List String) (item : Item) : Prop :=
  ∃ place entries, disk.locate builder.source = .ok (place, .directory entries) ∧
    (Item.directory entries).find? names = some item

variable {builder : Builder} {disk : Disk} {names : List String} {item : Item}

theorem clear_of_meets (met : builder.Meets disk names item) :
    ∀ name ∈ names, builder.rules.ignores name = false := by
  obtain ⟨place, entries, _, member⟩ := met
  exact (Disk.clear_of_mem_walk member).2.2

theorem meets_iff (holds : builder.Holds disk names item) (below : names ≠ [])
    (kept : ∀ target, item = .link target → builder.rules.followLinks = false)
    (near : builder.rules.reaches names.length = true) :
    builder.Meets disk names item ↔ ∀ name ∈ names, builder.rules.ignores name = false := by
  constructor
  · exact clear_of_meets
  · obtain ⟨place, entries, located, found⟩ := holds
    intro clear
    exact ⟨place, entries, located, (Disk.mem_walk_iff found below kept).mpr ⟨near, clear⟩⟩

end Builder

namespace ReloadPlan

variable {builder : Builder} {change : Change} {base : DiskPath} {paths : List DiskPath}

theorem isRelevant_directory_iff (acts : change ≠ .access) :
    (directory builder).isRelevant change paths = true ↔
      ∃ path ∈ paths, builder.rules.Clears path.components := by
  have touched : (change == .access) = false := beq_eq_false_iff_ne.mpr acts
  simp [isRelevant, touched, WalkRules.Clears]

private theorem not_relevant_of_hidden (acts : change ≠ .access)
    (hidden : ∀ path ∈ paths, builder.rules.Hides base path) :
    (directory builder).isRelevant change paths = false := by
  refine Bool.eq_false_iff.mpr fun relevant => ?_
  obtain ⟨path, member, clear⟩ := (isRelevant_directory_iff acts).mp relevant
  obtain ⟨rest, below, obscured⟩ := hidden path member
  rw [below] at clear
  exact obscured (WalkRules.clears_append_iff.mp clear).2

theorem relevant_of_shown {path : DiskPath} (acts : change ≠ .access) (member : path ∈ paths)
    (shown : builder.rules.Shows base path) (clear : builder.rules.Clears base.components) :
    (directory builder).isRelevant change paths = true := by
  obtain ⟨rest, below, onward⟩ := shown
  refine (isRelevant_directory_iff acts).mpr ⟨path, member, ?_⟩
  rw [below]
  exact WalkRules.clears_append_iff.mpr ⟨clear, onward⟩

theorem clear_of_relevant (acts : change ≠ .access)
    (inside : ∀ path ∈ paths, builder.rules.Shows base path ∨ builder.rules.Hides base path)
    (relevant : (directory builder).isRelevant change paths = true) :
    builder.rules.Clears base.components := by
  obtain ⟨path, member, clear⟩ := (isRelevant_directory_iff acts).mp relevant
  obtain ⟨rest, below, _⟩ | ⟨rest, below, _⟩ := inside path member
  all_goals
    rw [below] at clear
    exact (WalkRules.clears_append_iff.mp clear).1

/-- The base is the source as the paths spell it. A change of paths that the walk passes over is not
relevant. A change of a path that the walk does not pass over is relevant if no component of the
base is ignored; if one is, no change below the source is relevant, although the walk goes by the
names below the source alone. -/
theorem relevance_of_changes_below_source (acts : change ≠ .access) (base : DiskPath) :
    let plan : ReloadPlan := .directory builder
    (∀ paths, (∀ path ∈ paths, builder.rules.Hides base path) → plan.isRelevant change paths = false) ∧
    (∀ paths, (∃ path ∈ paths, builder.rules.Shows base path) →
      builder.rules.Clears base.components → plan.isRelevant change paths = true) ∧
    (∀ paths, (∀ path ∈ paths, builder.rules.Shows base path ∨ builder.rules.Hides base path) →
      plan.isRelevant change paths = true → builder.rules.Clears base.components) ∧
    ∀ (disk : Disk) (path : DiskPath) (names : List String) (item : Item),
      path.components = base.components ++ names.map .name →
      (builder.Meets disk names item → builder.rules.Shows base path) ∧
      (builder.Holds disk names item → names ≠ [] → builder.rules.reaches names.length = true →
        (∀ target, item = .link target → builder.rules.followLinks = false) →
        (builder.Meets disk names item ↔ builder.rules.Shows base path)) := by
  refine ⟨fun paths => not_relevant_of_hidden acts, ?_, fun paths => clear_of_relevant acts, ?_⟩
  · rintro paths ⟨path, member, shown⟩ clear
    exact relevant_of_shown acts member shown clear
  · intro disk path names item below
    rw [WalkRules.shows_iff below]
    exact ⟨Builder.clear_of_meets, fun holds further near kept =>
      Builder.meets_iff holds further kept near⟩

/-- A page and a repository below a directory for builds. -/
def siteEntries : List (String × Item) :=
  [(".git", .directory [("HEAD", .file [] 0o644)]), ("about", .file [] 0o644)]

def siteDisk : Disk :=
  ⟨.directory [("srv", .directory [("build", .directory [("site", .directory siteEntries)])])], []⟩

theorem locate_site : siteDisk.locate "/srv/build/site" =
    .ok (["srv", "build", "site"], .directory siteEntries) := by
  have names : Disk.steps "/srv/build/site" = ["srv", "build", "site"] := by decide
  have start : Disk.origin siteDisk.workingDirectory "/srv/build/site" = [] := by decide
  have reached : siteDisk.travel .reach Disk.linkLimit [] ["srv", "build", "site"] =
      .ok (.item ["srv", "build", "site"] (.directory siteEntries)) := rfl
  rw [Disk.locate, Disk.resolve, if_neg (by decide), if_neg (by decide), if_neg (by decide),
    names, start, reached]

/-- The walk meets a page below a directory whose name is ignored, and no change of that page is
relevant. -/
theorem change_below_ignored_name_missed :
    let builder : Builder := ⟨"/srv/build/site", ⟨false, ["build"], none⟩⟩
    let path : DiskPath := "/srv/build/site/about"
    builder.Meets siteDisk ["about"] (.file [] 0o644) ∧ builder.rules.Shows builder.source path ∧
      (directory builder).isRelevant .modify [path] = false := by
  intro builder path
  have holds : builder.Holds siteDisk ["about"] (.file [] 0o644) := ⟨_, _, locate_site, rfl⟩
  have met : builder.Meets siteDisk ["about"] (.file [] 0o644) :=
    (Builder.meets_iff holds (by simp) nofun rfl).mpr (by decide)
  exact ⟨met, ⟨[.name "about"], by decide, by decide⟩, by decide⟩

/-- Below a source that is clear, a change of a page is relevant beside one in the repository. -/
theorem change_of_page_relevant :
    let builder : Builder := ⟨"/srv/build/site", .standard⟩
    let plan : ReloadPlan := .directory builder
    let page : DiskPath := "/srv/build/site/about"
    let head : DiskPath := "/srv/build/site/.git/HEAD"
    Change.modify ≠ .access ∧ builder.rules.Clears (DiskPath.components builder.source) ∧
      plan.isRelevant .modify [head] = false ∧ plan.isRelevant .modify [head, page] = true ∧
      builder.Meets siteDisk ["about"] (.file [] 0o644) ∧
      ¬builder.Meets siteDisk [".git", "HEAD"] (.file [] 0o644) := by
  intro builder plan page head
  have acts : Change.modify ≠ .access := by decide
  have clear : builder.rules.Clears (DiskPath.components builder.source) := by decide
  have hidden : builder.rules.Hides builder.source head :=
    ⟨[.name ".git", .name "HEAD"], by decide, by decide⟩
  have shown : builder.rules.Shows builder.source page :=
    ⟨[.name "about"], by decide, by decide⟩
  have holds : builder.Holds siteDisk ["about"] (.file [] 0o644) := ⟨_, _, locate_site, rfl⟩
  obtain ⟨passed, noticed, _, walked⟩ :=
    @relevance_of_changes_below_source builder .modify acts builder.source
  refine ⟨acts, clear, passed [head] (by simpa using hidden),
    noticed [head, page] ⟨page, by simp, shown⟩ clear, ?_, ?_⟩
  · have atPage := walked siteDisk page ["about"] (.file [] 0o644) (by decide)
    exact (atPage.2 holds (by simp) rfl nofun).mpr shown
  · intro met
    have below : DiskPath.components head =
        DiskPath.components builder.source ++ [".git", "HEAD"].map .name := by decide
    have seen := (walked siteDisk head [".git", "HEAD"] (.file [] 0o644) below).1 met
    exact absurd ((WalkRules.shows_iff below).mp seen ".git" (by simp)) (by decide)

end ReloadPlan
end TreeShell
