import TreeShell.Proofs.TreeLookup
import TreeShell.Shell.Resolution

/-! What arguments resolve to. Whatever resolution answers was found by a lookup, and
an argument that is no alias is a walk down from the working directory. -/

namespace TreeShell

/-- An argument that names neither the root nor the parent, so that resolution looks it
up below the working directory. -/
structure Path.IsRelative (argument : String) : Prop where
  filled : argument ≠ ""
  notSlash : argument ≠ "/"
  notParent : strip argument ≠ ".."
  notRoot : strip argument ≠ root
  notRootName : strip argument ≠ rootName

namespace FileTree
open TreeShell.Path

variable {tree : FileTree} {current argument : String} {node folder : Node}

theorem locate_eq_ok_iff {path : String} :
    tree.locate path argument = .ok node ↔ tree.lookup path = some node := by
  unfold locate
  cases tree.lookup path <;> simp

theorem resolve_of_isRelative (relative : IsRelative argument) :
    tree.resolve current (some argument) =
      tree.locate (join current (strip argument)) argument := by
  obtain ⟨filled, notSlash, notParent, notRoot, notRootName⟩ := relative
  simp [resolve, filled, notSlash, notParent, notRoot, notRootName]

/-- From the path of a node, an argument that is no alias resolves to the node that its names lead
to from there. -/
theorem resolve_path_eq_ok_iff {path : String} {start : Node} (found : tree.lookup path = some start)
    (relative : IsRelative argument) :
    tree.resolve start.path (some argument) = .ok node ↔
      start.descend (segments argument) = some node := by
  obtain ⟨all, placed⟩ := path_of_descend found
  rw [placed, resolve_of_isRelative relative, locate_eq_ok_iff, lookup, steps_join_below_root all,
    segments_strip, Node.descend_append_of found]

theorem FolderAt.resolve_eq_ok_iff (here : tree.FolderAt current folder)
    (relative : IsRelative argument) :
    tree.resolve current (some argument) = .ok node ↔
      folder.descend (segments argument) = some node := by
  rw [← here.path_eq]
  exact resolve_path_eq_ok_iff here.found relative

/-- What resolution answers is the root, or it was found at the path of the parent or below the
working directory. -/
theorem resolve_cases {argument : Option String} (resolved : tree.resolve current argument = .ok node) :
    node = tree.root ∨ (∃ parent, parent? current = some parent ∧ tree.lookup parent = some node) ∨
      ∃ typed, argument = some typed ∧ tree.lookup (join current (strip typed)) = some node := by
  cases argument with
  | none => exact .inl (Except.ok.inj resolved).symm
  | some typed =>
    simp only [resolve] at resolved
    split at resolved
    · exact .inl (Except.ok.inj resolved).symm
    · split at resolved
      · split at resolved
        · cases resolved
        · rename_i parent above
          exact .inr (.inl ⟨parent, above, locate_eq_ok_iff.mp resolved⟩)
      · split at resolved
        · exact .inl (Except.ok.inj resolved).symm
        · exact .inr (.inr ⟨typed, rfl, locate_eq_ok_iff.mp resolved⟩)

theorem lookup_of_resolve {argument : Option String}
    (resolved : tree.resolve current argument = .ok node) :
    ∃ path, tree.lookup path = some node := by
  rcases resolve_cases resolved with rfl | ⟨parent, _, found⟩ | ⟨typed, _, found⟩
  · exact ⟨Path.root, tree.folderAt_root.found⟩
  · exact ⟨parent, found⟩
  · exact ⟨_, found⟩

theorem resolveFolder_eq_ok_iff {argument : Option String} :
    tree.resolveFolder current argument = .ok node ↔
      tree.resolve current argument = .ok node ∧ node.isFolder = true := by
  unfold resolveFolder
  split
  · rename_i missing seen
    simp [seen]
  · rename_i error other seen
    simp [seen]
  · rename_i found seen
    split
    · rename_i isFolder
      simp only [seen, Except.ok.injEq]
      exact ⟨fun same => ⟨same, same ▸ isFolder⟩, And.left⟩
    · rename_i isFile
      simp only [seen, Except.ok.injEq]
      exact ⟨nofun, fun ⟨same, isFolder⟩ => absurd (same ▸ isFolder) isFile⟩

theorem resolveFile_eq_ok_iff {argument : Option String} :
    tree.resolveFile current argument = .ok node ↔
      (∃ typed, argument = some typed ∧ typed ≠ "") ∧
        tree.resolve current argument = .ok node ∧ node.isFile = true := by
  cases argument with
  | none => simp [resolveFile]
  | some typed =>
    by_cases empty : typed = ""
    · simp [resolveFile, empty]
    · have given : ∃ other, some typed = some other ∧ other ≠ "" := ⟨typed, rfl, empty⟩
      simp only [resolveFile, given, true_and]
      rw [if_neg (by simpa using empty)]
      cases resolved : tree.resolve current (some typed) with
      | error cause => cases cause <;> simp
      | ok found =>
        simp only [Except.ok.injEq]
        split
        · rename_i isFile
          exact ⟨fun same => ⟨Except.ok.inj same, Except.ok.inj same ▸ isFile⟩, fun same => congrArg _ same.1⟩
        · rename_i notFile
          exact ⟨nofun, fun ⟨same, isFile⟩ => absurd (same ▸ isFile) notFile⟩

theorem folderAt_of_resolveFolder {argument : Option String}
    (resolved : tree.resolveFolder current argument = .ok folder) :
    tree.FolderAt folder.path folder := by
  obtain ⟨answered, isFolder⟩ := resolveFolder_eq_ok_iff.mp resolved
  obtain ⟨path, found⟩ := lookup_of_resolve answered
  exact folderAt_of_lookup found isFolder

end FileTree
end TreeShell
