import TreeShell.Proofs.ReachableNodes

/-! Climbing out of a folder. The parent of a path is read off its text, and the path of a folder holds
one name for each step down to it, so each climb undoes one step, whatever the names are. -/

namespace TreeShell

def climbingLines : List String :=
  ["cd ..", "cd ../"]

def Signal.body? (signal : Signal) : Option Body :=
  signal.entry?.map Transcript.body

theorem Command.ofLine_climbing {line : String} (climbing : line ∈ climbingLines) :
    ∃ argument ∈ Path.parentAliases, ofLine line = .cd (some argument) := by
  simp only [climbingLines, List.mem_cons, List.not_mem_nil, or_false] at climbing
  rcases climbing with rfl | rfl
  · exact ⟨"..", by decide, by decide⟩
  · exact ⟨"../", by decide, by decide⟩

namespace Session
open FileTree TreeShell.Path Text

variable {session : Session} {tree : FileTree} {names : List String} {name line path argument : String}

/-- A session stands in the folder that these names lead to from the root. -/
structure StandsIn (session : Session) (tree : FileTree) (names : List String) : Prop where
  folder : ∃ folder, tree.root.Chain names folder ∧ folder.isFolder = true ∧ folder.path = session.path

theorem standsIn_of_descend {folder : Node} (reached : tree.root.descend names = some folder)
    (isFolder : folder.isFolder = true) (placed : folder.path = session.path) :
    session.StandsIn tree names :=
  ⟨⟨folder, .of_descend reached, isFolder, placed⟩⟩

theorem StandsIn.exists_folderAt (stands : session.StandsIn tree names) :
    ∃ folder, tree.FolderAt session.path folder ∧ tree.root.descend names = some folder := by
  obtain ⟨folder, chain, isFolder, placed⟩ := stands.folder
  have reached := chain.descend tree.ordered
  obtain ⟨all, spelled⟩ := path_of_descend reached
  rw [placed] at spelled
  have found : tree.lookup session.path = some folder := by
    rw [spelled, lookup_below all]
    exact reached
  exact ⟨folder, ⟨found, isFolder, placed⟩, reached⟩

theorem StandsIn.climb (stands : session.StandsIn tree (names ++ [name])) (climbing : line ∈ climbingLines) :
    session.MovesTo tree line (below Path.root names) ∧
      (session.submitLine (.ready tree) line).1.StandsIn tree names := by
  obtain ⟨argument, aliased, isCd⟩ := Command.ofLine_climbing climbing
  obtain ⟨folder, isHere, reached⟩ := stands.exists_folderAt
  obtain ⟨all, spelled⟩ := path_of_descend reached
  rw [isHere.path_eq] at spelled
  rw [Node.descend_append] at reached
  obtain ⟨above, toAbove, fromAbove⟩ := Option.bind_eq_some_iff.mp reached
  have aboveFolder : above.isFolder = true := Node.isFolder_of_descend fromAbove isHere.isFolder
  obtain ⟨aboveAll, placed⟩ := path_of_descend toAbove
  have resolved : tree.resolve session.path (some argument) = .ok above := by
    rw [resolve_of_parentAlias aliased, spelled, parent?_below_root all]
    apply locate_eq_ok_iff.mpr
    rw [lookup_below aboveAll]
    exact toAbove
  have moves : session.MovesTo tree line (below Path.root names) :=
    (movesTo_iff isHere isCd).mpr ⟨above, resolved, aboveFolder, placed⟩
  exact ⟨moves, standsIn_of_descend toAbove aboveFolder (placed.trans moves.path_eq.symm)⟩

theorem StandsIn.refused (stands : session.StandsIn tree []) (climbing : line ∈ climbingLines) :
    session.path = Path.root ∧ (session.submitLine (.ready tree) line).1.path = Path.root ∧
      (session.submitLine (.ready tree) line).2 = [.append ⟨Path.root, line, .error .noParentDirectory⟩] := by
  obtain ⟨argument, aliased, isCd⟩ := Command.ofLine_climbing climbing
  obtain ⟨folder, isHere, reached⟩ := stands.exists_folderAt
  have atRoot : session.path = Path.root := isHere.path_eq.symm.trans (path_of_descend reached).2
  have failed : tree.resolveFolder session.path (some argument) = .error .noParentDirectory := by
    rw [resolveFolder, resolve_of_parentAlias aliased, atRoot, parent?_root]
  have refused := refused_of_cd isHere isCd failed
  rw [atRoot] at refused
  exact ⟨atRoot, refused⟩

theorem StandsIn.returns (stands : session.StandsIn tree names) (word : Word argument)
    (relative : IsRelative argument) (single : segments argument = [name]) (climbing : line ∈ climbingLines)
    (moves : session.MovesTo tree ("cd" ++ " " ++ argument) path) :
    (session.submitLine (.ready tree) ("cd" ++ " " ++ argument)).1.MovesTo tree line session.path := by
  obtain ⟨folder, isHere, reached⟩ := stands.exists_folderAt
  obtain ⟨child, resolved, isFolder, placed⟩ := (movesTo_cd_iff isHere word).mp moves
  have down := (isHere.resolve_eq_ok_iff relative).mp resolved
  rw [single] at down
  have whole : tree.root.descend (names ++ [name]) = some child :=
    (Node.descend_append_of reached [name]).trans down
  have below := standsIn_of_descend whole isFolder (placed.trans moves.path_eq.symm)
  have climbed := (below.climb climbing).1
  rwa [← (path_of_descend reached).2, isHere.path_eq] at climbed

end Session

namespace World
open FileTree TreeShell.Path Text

variable {world : World} {tree : FileTree} {names lines : List String}

/-- The tree is in the slot, and the session stands in the folder that these names lead to. -/
structure StandsIn (world : World) (tree : FileTree) (names : List String) : Prop where
  ready : world.slot = .ready tree
  session : world.session.StandsIn tree names

theorem StandsIn.climb {name line : String} (stands : world.StandsIn tree (names ++ [name]))
    (climbing : line ∈ climbingLines) :
    (world.act (.event (.line line))).StandsIn tree names ∧
      world.said (.event (.line line)) = [.append ⟨world.session.path, line, .blank⟩] := by
  obtain ⟨slot, session⟩ := world
  obtain ⟨rfl, stands⟩ := stands
  obtain ⟨moves, above⟩ := stands.climb climbing
  exact ⟨⟨rfl, above⟩, moves.answered⟩

theorem StandsIn.climbs {kept dropped : List String} (stands : world.StandsIn tree (kept ++ dropped))
    (climbing : lines ⊆ climbingLines) (counted : lines.length = dropped.length) :
    (world.run (submissions lines)).StandsIn tree kept ∧
      (world.told (submissions lines)).map Signal.body? = List.replicate lines.length (some .blank) := by
  induction lines generalizing world dropped with
  | nil =>
    obtain rfl : dropped = [] := List.length_eq_zero_iff.mp counted.symm
    rw [List.append_nil] at stands
    exact ⟨stands, rfl⟩
  | cons line rest ih =>
    obtain ⟨isClimb, climbing⟩ := List.cons_subset.mp climbing
    rcases List.eq_nil_or_concat dropped with rfl | ⟨shorter, last, ended⟩
    · cases counted
    · obtain rfl := ended.trans (List.concat_eq_append ..)
      rw [← List.append_assoc] at stands
      obtain ⟨above, said⟩ := stands.climb isClimb
      have remaining : rest.length = shorter.length := by simpa using counted
      obtain ⟨arrived, answers⟩ := ih above climbing remaining
      refine ⟨arrived, ?_⟩
      rw [submissions, List.map_cons, told, said, List.map_append, List.length_cons,
        List.replicate_succ]
      exact congrArg (some Body.blank :: ·) answers

theorem StandsIn.climbs_within (stands : world.StandsIn tree names) (climbing : lines ⊆ climbingLines)
    (within : lines.length ≤ names.length) :
    (world.run (submissions lines)).StandsIn tree (names.take (names.length - lines.length)) ∧
      (world.told (submissions lines)).map Signal.body? = List.replicate lines.length (some .blank) := by
  have parted : world.StandsIn tree (names.take (names.length - lines.length) ++
      names.drop (names.length - lines.length)) := by
    rw [List.take_append_drop]
    exact stands
  apply parted.climbs climbing
  rw [List.length_drop]
  omega

theorem StandsIn.refused {line : String} (stands : world.StandsIn tree []) (climbing : line ∈ climbingLines) :
    world.session.path = Path.root ∧ (world.act (.event (.line line))).session.path = Path.root ∧
      world.said (.event (.line line)) = [.append ⟨Path.root, line, .error .noParentDirectory⟩] := by
  obtain ⟨slot, session⟩ := world
  obtain ⟨rfl, stands⟩ := stands
  exact stands.refused climbing

/-- From a folder that a number of names lead to, each of as many climbs is answered by a blank and takes
the session to the folder that one name less leads to. After all of them it stands in the root, where
one more is refused and leaves it. So a climb takes back any change of directory by a single name. -/
theorem climbing_out (stands : world.StandsIn tree names) :
    (∀ lines, lines ⊆ climbingLines → lines.length ≤ names.length →
      (world.run (submissions lines)).StandsIn tree (names.take (names.length - lines.length)) ∧
        (world.told (submissions lines)).map Signal.body? =
          List.replicate lines.length (some .blank)) ∧
    (∀ lines line, lines ⊆ climbingLines → line ∈ climbingLines → lines.length = names.length →
      let top := world.run (submissions lines)
      top.session.path = Path.root ∧ (top.act (.event (.line line))).session.path = Path.root ∧
        top.said (.event (.line line)) = [.append ⟨Path.root, line, .error .noParentDirectory⟩]) ∧
    ∀ argument name path line, Word argument → IsRelative argument → segments argument = [name] →
      line ∈ climbingLines → world.session.MovesTo tree ("cd" ++ " " ++ argument) path →
      (world.session.submitLine (.ready tree) ("cd" ++ " " ++ argument)).1.MovesTo tree line
        world.session.path := by
  refine ⟨fun lines climbing within => stands.climbs_within climbing within, ?_, ?_⟩
  · intro lines line climbing isClimb counted
    have arrived := (stands.climbs_within climbing (Nat.le_of_eq counted)).1
    rw [counted, Nat.sub_self, List.take_zero] at arrived
    exact arrived.refused isClimb
  · intro argument name path line word relative single isClimb moves
    exact stands.session.returns word relative single isClimb moves

def parentFolder : Node :=
  .folderUnder "/Home/Home" ".." []

def homeFolder : Node :=
  .folderUnder "/Home" "Home" [parentFolder]

/-- A root with a folder that bears its name, and in that a folder that is called as the parent. -/
def nestedHomes : FileTree where
  root := .rootFolder [homeFolder]
  ordered := by
    have inner : parentFolder.Ordered := Node.ordered_collected (by simp)
    have outer : homeFolder.Ordered := Node.ordered_collected (by simpa using inner)
    exact Node.ordered_collected (by simpa using outer)
  wellFormed := Node.rootFault?_eq_none_iff.mp (by decide)

/-- Below the root, out of a folder with the root's name and back from one that is called as the
parent. -/
theorem climbing_out_of_nestedHomes :
    let world : World := ⟨.ready nestedHomes, { Session.start with path := "/Home/Home" }⟩
    world.StandsIn nestedHomes ["Home"] ∧
      (world.told (submissions ["cd ../"])).map Signal.body? = [some .blank] ∧
      (world.run (submissions ["cd ../"])).said (.event (.line "cd ..")) =
        [.append ⟨"/Home", "cd ..", .error .noParentDirectory⟩] ∧
      world.session.MovesTo nestedHomes "cd /.." "/Home/Home/.." ∧
      (world.session.submitLine (.ready nestedHomes) "cd /..").1.MovesTo nestedHomes "cd .."
        "/Home/Home" := by
  intro world
  have reached : nestedHomes.root.descend ["Home"] = some homeFolder := by rfl
  have stands : world.StandsIn nestedHomes ["Home"] :=
    ⟨rfl, Session.standsIn_of_descend reached rfl rfl⟩
  have climbing : ["cd ../"] ⊆ climbingLines := by decide
  have word : Word "/.." := ⟨by decide, unbroken_of_all (by decide)⟩
  have relative : IsRelative "/.." := by constructor <;> decide
  have isHere : nestedHomes.FolderAt "/Home/Home" homeFolder := ⟨by decide, rfl, rfl⟩
  have resolved : nestedHomes.resolve "/Home/Home" (some "/..") = .ok parentFolder :=
    (isHere.resolve_eq_ok_iff relative).mpr (by decide)
  have down : world.session.MovesTo nestedHomes ("cd" ++ " " ++ "/..") "/Home/Home/.." :=
    (Session.movesTo_cd_iff isHere word).mpr ⟨parentFolder, resolved, rfl, rfl⟩
  obtain ⟨climbs, refused, returns⟩ := climbing_out stands
  have climbed := (climbs ["cd ../"] climbing (by decide)).2
  have atTop := (refused ["cd ../"] "cd .." climbing (by decide) (by decide)).2.2
  have returned := returns "/.." ".." "/Home/Home/.." "cd .." word relative (by decide) (by decide) down
  have spelled : "cd" ++ " " ++ "/.." = "cd /.." := by decide
  rw [spelled] at down returned
  exact ⟨stands, climbed, atTop, down, returned⟩

end World
end TreeShell
