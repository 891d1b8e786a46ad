import TreeShell.CommandLine.Plan
import TreeShell.CommandLine.Reading
import TreeShell.Proofs.Outcomes

/-! What is watched is what was loaded. Flags go before settings in two places, once for the source
of a tree and once for what is loaded again when it changes. A command line names at most one place,
and then both come to the same one, unless it is served from somewhere else. -/

namespace TreeShell

variable {settings : Settings} {origin : Origin} {plan : ReloadPlan}

namespace Origin

private theorem isSingle_iff : origin.isSingle = true ↔ origin = .none ∨
    (∃ path, origin = ⟨some path, .none, .none⟩) ∨ (∃ url, origin = ⟨.none, some url, .none⟩) ∨
    ∃ path, origin = ⟨.none, .none, some path⟩ := by
  obtain ⟨tree, url, source⟩ := origin
  cases tree <;> cases url <;> cases source <;> simp [isSingle, Origin.none]

end Origin

theorem Reading.isSingle_of_task {reading : Reading} {verb : Verb} {task : Task}
    (read : reading.task verb = .ok task) : task.origin.isSingle = true := by
  cases verb with
  | build | check =>
    simp only [Reading.task] at read
    split at read
    · cases read
      rfl
    · cases read
  | config =>
    cases read
    rfl
  | exec =>
    simp only [Reading.task] at read
    split at read
    · cases read
    · rename_i single
      split at read
      · cases read
      · cases read
        simpa [Task.origin] using single
  | shell =>
    simp only [Reading.task] at read
    split at read
    · cases read
    · rename_i single
      cases read
      simpa [Task.origin] using single

theorem Invocation.task_of_ofArguments {arguments : List String} {invocation : Invocation}
    (read : ofArguments arguments = .ok invocation) :
    ∃ reading verb, Reading.task reading verb = .ok invocation.task := by
  obtain ⟨⟨before, more⟩, _, rest⟩ := bind_eq_ok_iff.mp read
  cases more with
  | none =>
    obtain ⟨_, _, never⟩ := bind_eq_ok_iff.mp rest
    cases never
  | some found =>
    obtain ⟨verb, others⟩ := found
    obtain ⟨_, _, rest⟩ := bind_eq_ok_iff.mp rest
    obtain ⟨reading, _, rest⟩ := bind_eq_ok_iff.mp rest
    obtain ⟨task, done, rest⟩ := bind_eq_ok_iff.mp rest
    obtain ⟨_, _, rest⟩ := bind_eq_ok_iff.mp rest
    cases rest
    exact ⟨reading, verb, done⟩

namespace ReloadPlan

def source : ReloadPlan → TreeSource
  | .document path => .document path
  | .directory builder => .directory builder

theorem reload_eq_fetch (plan : ReloadPlan) (service : Service) (disk : Disk) :
    plan.reload disk = plan.source.fetch service disk := by
  cases plan <;> rfl

theorem exists_source_iff {source : TreeSource} : (∃ plan : ReloadPlan, plan.source = source) ↔
    ∀ location timeoutSeconds, source ≠ .remote location timeoutSeconds := by
  cases source with
  | document path => exact ⟨fun _ _ _ => nofun, fun _ => ⟨.document path, rfl⟩⟩
  | directory builder => exact ⟨fun _ _ _ => nofun, fun _ => ⟨.directory builder, rfl⟩⟩
  | remote location timeoutSeconds =>
    constructor
    · rintro ⟨plan, same⟩
      cases plan <;> cases same
    · intro other
      exact absurd rfl (other location timeoutSeconds)

end ReloadPlan

namespace Settings

/-- Among the settings alone both go by the same order. A served document is in the way of a
directory however its location is spelled. -/
private theorem reloadPlan_none : settings.reloadPlan .none = .ok plan ↔
    settings.treeSource .none = .ok plan.source := by
  obtain ⟨⟨file, url, directory, timeout⟩, shell, builder, logging⟩ := settings
  cases file with
  | some path => cases plan <;> simp [reloadPlan, treeSource, ReloadPlan.source, Origin.none]
  | none =>
    cases url with
    | some url =>
      cases plan <;>
        simp [reloadPlan, treeSource, ReloadPlan.source, Origin.none, TreeSettings.documentUrl?]
    | none =>
      cases directory <;> cases plan <;>
        simp [reloadPlan, treeSource, ReloadPlan.source, Origin.none, TreeSettings.documentUrl?,
          builderOf]

theorem rules_of_reloadPlan {builder : Builder}
    (planned : settings.reloadPlan origin = .ok (.directory builder)) :
    builder.rules = settings.builder := by
  simp only [reloadPlan] at planned
  split at planned
  · cases planned
  · cases planned
    rfl
  · cases planned

theorem reloadPlan_eq_ok_iff (single : origin.isSingle = true) :
    settings.reloadPlan origin = .ok plan ↔ settings.treeSource origin = .ok plan.source := by
  obtain rfl | ⟨path, rfl⟩ | ⟨url, rfl⟩ | ⟨path, rfl⟩ := Origin.isSingle_iff.mp single
  · exact reloadPlan_none
  · cases plan <;> simp [reloadPlan, treeSource, ReloadPlan.source]
  · cases plan <;> simp [reloadPlan, treeSource, ReloadPlan.source]
  · cases plan <;> simp [reloadPlan, treeSource, ReloadPlan.source]

/-- Watching loads again what was loaded. A command line can name one place at most; then there is
a plan exactly where there is a source that is not served, and the plan gives what the source gives
on every disk, whatever is served, by the same rules if it builds a directory. -/
theorem watching_reloads_what_was_loaded :
    (∀ arguments invocation, Invocation.ofArguments arguments = .ok invocation →
      invocation.task.origin.isSingle = true) ∧
    ∀ (settings : Settings) (origin : Origin), origin.isSingle = true →
      ((∃ plan, settings.reloadPlan origin = .ok plan) ↔
        ∃ source, settings.treeSource origin = .ok source ∧
          ∀ location timeoutSeconds, source ≠ .remote location timeoutSeconds) ∧
      ∀ plan source, settings.reloadPlan origin = .ok plan → settings.treeSource origin = .ok source →
        (∀ service disk, plan.reload disk = source.fetch service disk) ∧
        (∀ builder, plan = .directory builder ↔ source = .directory builder) ∧
        ∀ builder, plan = .directory builder → builder.rules = settings.builder := by
  constructor
  · intro arguments invocation read
    obtain ⟨reading, verb, task⟩ := Invocation.task_of_ofArguments read
    exact Reading.isSingle_of_task task
  · intro settings origin single
    constructor
    · constructor
      · rintro ⟨plan, planned⟩
        have found := (reloadPlan_eq_ok_iff single).mp planned
        exact ⟨plan.source, found, ReloadPlan.exists_source_iff.mp ⟨plan, rfl⟩⟩
      · rintro ⟨source, found, here⟩
        obtain ⟨plan, rfl⟩ := ReloadPlan.exists_source_iff.mpr here
        exact ⟨plan, (reloadPlan_eq_ok_iff single).mpr found⟩
    · intro plan source planned found
      have same := (reloadPlan_eq_ok_iff single).mp planned
      obtain rfl : plan.source = source := Except.ok.inj (same.symm.trans found)
      refine ⟨plan.reload_eq_fetch, ?_, ?_⟩
      · intro builder
        cases plan <;> simp [ReloadPlan.source]
      · rintro builder rfl
        exact rules_of_reloadPlan planned

/-- A directory that a flag names is loaded and watched, and not the document that the settings
name; the rules of the settings hold for it. -/
theorem watched_directory_of_flag :
    let arguments := ["shell", "--watch", "--source", "pages"]
    let origin : Origin := ⟨none, none, some "pages"⟩
    let invocation : Invocation :=
      ⟨.shell origin true ⟨none, none⟩, none, none, none, none, none⟩
    let rules : WalkRules := { WalkRules.standard with ignore := ["drafts"] }
    let settings := { Settings.standard with
      tree := ⟨some "site.json", some "https://host/", some "site", 10⟩, builder := rules }
    let plan : ReloadPlan := .directory ⟨"pages", rules⟩
    Invocation.ofArguments arguments = .ok invocation ∧ origin.isSingle = true ∧
      settings.reloadPlan origin = .ok plan ∧
      settings.treeSource origin = .ok (.directory ⟨"pages", rules⟩) ∧
      ∀ service disk,
        plan.reload disk = (TreeSource.directory ⟨"pages", rules⟩).fetch service disk := by
  intro arguments origin invocation rules settings plan
  have asked : Invocation.ofArguments arguments = .ok invocation := rfl
  have single : origin.isSingle = true :=
    watching_reloads_what_was_loaded.1 arguments invocation asked
  have planned : settings.reloadPlan origin = .ok plan := rfl
  have found : settings.treeSource origin = .ok (.directory ⟨"pages", rules⟩) := rfl
  have watching := watching_reloads_what_was_loaded.2 settings origin single
  exact ⟨asked, single, planned, found, (watching.2 plan _ planned found).1⟩

end Settings
end TreeShell
