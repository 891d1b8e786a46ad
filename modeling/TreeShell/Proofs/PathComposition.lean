import TreeShell.Proofs.ReachableNodes

/-! Arguments put together. An argument that is no alias is a walk down, so one behind another is
both walks in turn, through whatever node lies between them; and a separator that touches another one,
or the end of an argument, adds nothing to a walk. -/

namespace TreeShell

namespace Path

/-- What an alias is left with before a separator, or without it, is an alias again. -/
theorem alias_of_join {before after : String} (aliased : join before after ∈ parentAliases ++ rootAliases) :
    before ∈ parentAliases ++ rootAliases ∧ before ++ after ∈ parentAliases ++ rootAliases := by
  have parts : ∀ whole ∈ parentAliases ++ rootAliases, ∀ place < whole.toList.length,
      whole.toList[place]? = some separator →
        String.ofList (whole.toList.take place) ∈ parentAliases ++ rootAliases ∧
          String.ofList (whole.toList.eraseIdx place) ∈ parentAliases ++ rootAliases := by
    decide
  have spelled := toList_join before after
  have inside : before.toList.length < (join before after).toList.length := by
    rw [spelled, List.length_append, List.length_cons]
    omega
  have found : (join before after).toList[before.toList.length]? = some separator := by
    simp [spelled]
  have parted := parts _ aliased before.toList.length inside found
  simpa [spelled, List.eraseIdx_append_of_length_le] using parted

variable {first second path wider : String}

theorem IsRelative.join (relative : IsRelative first) (second : String) :
    IsRelative (join first second) := by
  apply isRelative_iff.mpr
  intro aliased
  exact isRelative_iff.mp relative (alias_of_join aliased).1

/-- A path with separators added in front of it, behind it or behind other separators. -/
inductive Widened (path : String) : String → Prop where
  | same : Widened path path
  | wider {before after : String} (earlier : Widened path (before ++ after))
      (idle : before = "" ∨ after = "" ∨ ∃ rest, before = rest ++ "/") :
      Widened path (join before after)

private theorem segments_of_idle {before after : String}
    (idle : before = "" ∨ after = "" ∨ ∃ rest, before = rest ++ "/") :
    segments (join before after) = segments (before ++ after) := by
  rcases idle with rfl | rfl | ⟨rest, rfl⟩
  · rw [segments_join, segments_empty, String.empty_append]
    rfl
  · rw [segments_join, segments_empty, String.append_empty, List.append_nil]
  · have closed : rest ++ "/" = join rest "" := String.append_empty.symm
    rw [segments_join, closed, segments_join, segments_empty, List.append_nil, ← closed]
    exact (segments_join rest after).symm

theorem Widened.segments_eq (widened : Widened path wider) : segments wider = segments path := by
  induction widened with
  | same => rfl
  | wider _ idle ih => rw [segments_of_idle idle, ih]

theorem Widened.isRelative (widened : Widened path wider) (relative : IsRelative path) :
    IsRelative wider := by
  induction widened with
  | same => exact relative
  | wider _ _ ih =>
    apply isRelative_iff.mpr
    intro aliased
    exact isRelative_iff.mp ih (alias_of_join aliased).2

end Path

namespace FileTree
open TreeShell.Path Text

variable {tree : FileTree} {current first second : String} {folder node : Node}

theorem lookup_join_of_segments {path one two : String} (same : segments one = segments two) :
    tree.lookup (join path one) = tree.lookup (join path two) := by
  rw [lookup, lookup, steps, steps, segments_join, segments_join, same]

theorem resolve_of_segments {one two : String} (relativeOne : IsRelative one)
    (relativeTwo : IsRelative two) (same : segments one = segments two) :
    tree.resolve current (some one) = .ok node ↔ tree.resolve current (some two) = .ok node := by
  have spelled : segments (strip one) = segments (strip two) := by
    rw [segments_strip, segments_strip, same]
  rw [resolve_of_isRelative relativeOne, resolve_of_isRelative relativeTwo, locate_eq_ok_iff,
    locate_eq_ok_iff, lookup_join_of_segments spelled]

theorem resolve_widened {typed wider : String} (relative : IsRelative typed)
    (widened : Widened typed wider) :
    tree.resolve current (some wider) = .ok node ↔ tree.resolve current (some typed) = .ok node :=
  resolve_of_segments (widened.isRelative relative) relative widened.segments_eq

/-- One argument behind another finds what the second one finds from where the first one leads. -/
theorem resolve_join_iff (here : tree.FolderAt current folder) (one : IsRelative first)
    (two : IsRelative second) :
    tree.resolve current (some (join first second)) = .ok node ↔
      ∃ middle, tree.resolve current (some first) = .ok middle ∧
        tree.resolve middle.path (some second) = .ok node := by
  rw [here.resolve_eq_ok_iff (one.join second), segments_join, Node.descend_append,
    Option.bind_eq_some_iff]
  apply exists_congr
  intro middle
  rw [here.resolve_eq_ok_iff one]
  apply and_congr_right
  intro reached
  have found : tree.lookup middle.path = some middle := (here.path_of_descend reached).2.2
  exact (resolve_path_eq_ok_iff found two).symm

end FileTree

namespace Session
open FileTree TreeShell.Path Text

variable {session : Session} {tree : FileTree} {here : Node} {first second path : String}

theorem movesTo_join_iff (isHere : tree.FolderAt session.path here) (one : IsRelative first)
    (two : IsRelative second) (oneUnbroken : Unbroken first) (twoUnbroken : Unbroken second) :
    session.MovesTo tree ("cd" ++ " " ++ join first second) path ↔
      (∃ middle, session.MovesTo tree ("cd" ++ " " ++ first) middle) ∧
        (session.submitLine (.ready tree) ("cd" ++ " " ++ first)).1.MovesTo tree
          ("cd" ++ " " ++ second) path := by
  have oneWord : Word first := ⟨one.filled, oneUnbroken⟩
  have twoWord : Word second := ⟨two.filled, twoUnbroken⟩
  have bothWord : Word (join first second) :=
    ⟨(one.join second).filled, unbroken_join_iff.mpr ⟨oneUnbroken, twoUnbroken⟩⟩
  rw [movesTo_cd_iff isHere bothWord]
  constructor
  · rintro ⟨folder, resolved, isFolder, rfl⟩
    obtain ⟨middle, toMiddle, fromMiddle⟩ := (resolve_join_iff isHere one two).mp resolved
    obtain ⟨place, found⟩ := lookup_of_resolve toMiddle
    have reached := (resolve_path_eq_ok_iff found two).mp fromMiddle
    have middleFolder : middle.isFolder = true := Node.isFolder_of_descend reached isFolder
    have moves : session.MovesTo tree ("cd" ++ " " ++ first) middle.path :=
      (movesTo_cd_iff isHere oneWord).mpr ⟨middle, toMiddle, middleFolder, rfl⟩
    refine ⟨⟨middle.path, moves⟩, ?_⟩
    have isNext := moves.path_eq ▸ folderAt_of_lookup found middleFolder
    apply (movesTo_cd_iff isNext twoWord).mpr
    exact ⟨folder, moves.path_eq.symm ▸ fromMiddle, isFolder, rfl⟩
  · rintro ⟨⟨_, moves⟩, onward⟩
    obtain ⟨middle, toMiddle, middleFolder, rfl⟩ := (movesTo_cd_iff isHere oneWord).mp moves
    obtain ⟨place, found⟩ := lookup_of_resolve toMiddle
    have isNext := moves.path_eq ▸ folderAt_of_lookup found middleFolder
    obtain ⟨folder, fromMiddle, isFolder, rfl⟩ := (movesTo_cd_iff isNext twoWord).mp onward
    rw [moves.path_eq] at fromMiddle
    exact ⟨folder, (resolve_join_iff isHere one two).mpr ⟨middle, toMiddle, fromMiddle⟩, isFolder, rfl⟩

end Session

namespace FileTree
open TreeShell.Path Text

/-- Arguments that are no aliases compose: one behind another finds what the second finds from the node
that the first one finds, however many separators are added to either or between them. If they hold
no blanks, a session goes by one change of directory where it goes by both in turn. -/
theorem resolution_of_joined_arguments {tree : FileTree} {current first second : String} {folder : Node}
    (here : tree.FolderAt current folder) (one : IsRelative first) (two : IsRelative second) :
    (∀ node, tree.resolve current (some (join first second)) = .ok node ↔
      ∃ middle, tree.resolve current (some first) = .ok middle ∧
        tree.resolve middle.path (some second) = .ok node) ∧
    (∀ widerFirst widerSecond whole, Widened first widerFirst → Widened second widerSecond →
      Widened (join widerFirst widerSecond) whole → ∀ path node,
        (tree.resolve path (some widerFirst) = .ok node ↔ tree.resolve path (some first) = .ok node) ∧
        (tree.resolve path (some widerSecond) = .ok node ↔
          tree.resolve path (some second) = .ok node) ∧
        (tree.resolve path (some whole) = .ok node ↔
          tree.resolve path (some (join first second)) = .ok node)) ∧
    ∀ session : Session, session.path = current → Unbroken first → Unbroken second → ∀ path,
      session.MovesTo tree ("cd" ++ " " ++ join first second) path ↔
        (∃ middle, session.MovesTo tree ("cd" ++ " " ++ first) middle) ∧
          (session.submitLine (.ready tree) ("cd" ++ " " ++ first)).1.MovesTo tree
            ("cd" ++ " " ++ second) path := by
  refine ⟨fun node => resolve_join_iff here one two, ?_, ?_⟩
  · intro widerFirst widerSecond whole ofFirst ofSecond ofWhole path node
    refine ⟨resolve_widened one ofFirst, resolve_widened two ofSecond, ?_⟩
    apply resolve_of_segments
    · exact ofWhole.isRelative ((ofFirst.isRelative one).join widerSecond)
    · exact one.join second
    · rw [ofWhole.segments_eq, segments_join, segments_join, ofFirst.segments_eq, ofSecond.segments_eq]
  · intro session atCurrent oneUnbroken twoUnbroken path
    subst atCurrent
    exact Session.movesTo_join_iff here one two oneUnbroken twoUnbroken

/-- Two folders down in the sample, by one argument and by two, with separators to spare. -/
theorem joined_arguments_in_sampleTree :
    let old := Node.folderUnder "/Home/Docs" "old" []
    sampleTree.FolderAt Path.root sampleTree.root ∧ IsRelative "Docs" ∧ IsRelative "/old" ∧
      (∃ middle, sampleTree.resolve Path.root (some "Docs") = .ok middle ∧
        sampleTree.resolve middle.path (some "/old") = .ok old) ∧
      Widened "Docs" "Docs/" ∧ sampleTree.resolve Path.root (some "Docs///old") = .ok old ∧
      Session.start.MovesTo sampleTree "cd Docs//old" "/Home/Docs/old" := by
  intro old
  have isHere := sampleTree.folderAt_root
  have one : IsRelative "Docs" := by constructor <;> decide
  have two : IsRelative "/old" := by constructor <;> decide
  have oneUnbroken : Unbroken "Docs" := unbroken_of_all (by decide)
  have twoUnbroken : Unbroken "/old" := unbroken_of_all (by decide)
  have closed : Widened "Docs" (join "Docs" "") := .wider .same (.inr (.inl rfl))
  obtain ⟨composes, widens, moves⟩ := resolution_of_joined_arguments isHere one two
  have wider := widens "Docs/" "/old" _ closed .same .same Path.root old
  exact ⟨isHere, one, two, (composes old).mp rfl, closed, wider.2.2.mpr rfl,
    (moves Session.start rfl oneUnbroken twoUnbroken _).mpr ⟨⟨"/Home/Docs", rfl, rfl⟩, rfl, rfl⟩⟩

end FileTree
end TreeShell
