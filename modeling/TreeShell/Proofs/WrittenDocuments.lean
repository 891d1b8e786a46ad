import TreeShell.Build.Builder
import TreeShell.Proofs.DiskWriting
import TreeShell.Proofs.DocumentRoundTrip
import TreeShell.Proofs.Outcomes

/-! Documents on the disk. Saving a tree sets no limit to its depth and reading does, so a
tree that was built and written is read back just where it is not too deep. -/

namespace TreeShell

namespace FileTree

variable {tree : FileTree} {disk after : Disk} {path : DiskPath}

theorem ofBytes_toDocument (tree : FileTree) :
    ofBytes (Text.Utf8.encode tree.toDocument) =
      if tree.root.toJson.nesting < Json.nestingLimit then .ok tree else .error .malformed := by
  have read : Json.ofText? tree.toDocument = if tree.root.toJson.nesting < Json.nestingLimit
      then some tree.root.toJson else none :=
    Json.ofText?_toPrettyText (Node.numberless_toJson tree.root)
  simp only [ofBytes, Text.Utf8.decode?_encode, ofDocument]
  by_cases fits : tree.root.toJson.nesting < Json.nestingLimit
  · rw [read, if_pos fits, if_pos fits]
    exact tree.ofJson_toJson
  · rw [read, if_neg fits, if_neg fits]

theorem write_of_save (saved : tree.save disk path = .ok after) :
    ∃ made : Disk, made.write path (Text.Utf8.encode tree.toDocument) = .ok after := by
  unfold save at saved
  split at saved
  · exact ⟨disk, mapError_eq_ok_iff.mp saved⟩
  · obtain ⟨made, _, written⟩ := bind_eq_ok_iff.mp saved
    exact ⟨made, mapError_eq_ok_iff.mp written⟩

theorem load_save (saved : tree.save disk path = .ok after) :
    load after path = if tree.root.toJson.nesting < Json.nestingLimit
      then .ok tree else .error (.malformedDocument (Text.Utf8.encode tree.toDocument)) := by
  obtain ⟨made, written⟩ := write_of_save saved
  rw [load, Disk.read_write written]
  simp only [decode, ofBytes_toDocument]
  split <;> rfl

end FileTree

namespace Builder

variable {builder : Builder} {disk after : Disk} {output : DiskPath} {tree : FileTree}

theorem save_of_buildTo (built : builder.buildTo disk output = .ok (tree, after)) :
    builder.build disk = .ok tree ∧ tree.save disk output = .ok after := by
  obtain ⟨found, made, rest⟩ := bind_eq_ok_iff.mp built
  obtain ⟨written, saved, same⟩ := bind_eq_ok_iff.mp rest
  cases same
  exact ⟨made, saved⟩

/-- A tree that was built and written is read back from there if it is shallow; if it is
not, its document is refused as malformed. -/
theorem written_document_reloaded (built : builder.buildTo disk output = .ok (tree, after)) :
    (FileTree.load after output = .ok tree ↔ tree.Shallow) ∧
    (FileTree.load after output =
      .error (.malformedDocument (Text.Utf8.encode tree.toDocument)) ↔ ¬tree.Shallow) := by
  obtain ⟨-, saved⟩ := save_of_buildTo built
  rw [FileTree.load_save saved, FileTree.shallow_iff]
  split
  · rename_i fits
    exact ⟨iff_of_true rfl fits, iff_of_false (by simp) (not_not_intro fits)⟩
  · rename_i deep
    exact ⟨iff_of_false (by simp) deep, iff_of_true rfl deep⟩

/-- Directories in one another, as many as `levels` says below the outermost. -/
def nested : Nat → Item
  | 0 => .directory []
  | levels + 1 => .directory [("d", nested levels)]

def nestedDisk (levels : Nat) : Disk :=
  ⟨.directory [("s", nested levels)], []⟩

theorem buildTo_of_nesting {nesting : Nat}
    (builds : (builder.buildTo disk output).toOption.map (fun made => made.1.root.toJson.nesting) =
      some nesting) :
    ∃ tree after, builder.buildTo disk output = .ok (tree, after) ∧
      tree.root.toJson.nesting = nesting := by
  cases built : builder.buildTo disk output with
  | error cause =>
    rw [built] at builds
    cases builds
  | ok made =>
    rw [built] at builds
    exact ⟨made.1, made.2, rfl, Option.some.inj builds⟩

/-- One directory more than the reader has levels for is written all the same. -/
theorem deep_document_refused :
    ∃ tree after, buildTo ⟨"s", .standard⟩ (nestedDisk 63) "t.json" = .ok (tree, after) ∧
      FileTree.load after "t.json" =
        .error (.malformedDocument (Text.Utf8.encode tree.toDocument)) := by
  obtain ⟨tree, after, built, nesting⟩ :=
    @buildTo_of_nesting ⟨"s", .standard⟩ (nestedDisk 63) "t.json" 128 (by decide +kernel)
  refine ⟨tree, after, built, ?_⟩
  rw [FileTree.load_save (save_of_buildTo built).2, nesting]
  rfl

theorem shallow_document_reloaded :
    ∃ tree after, buildTo ⟨"s", .standard⟩ (nestedDisk 2) "out/t.json" = .ok (tree, after) ∧
      FileTree.load after "out/t.json" = .ok tree := by
  obtain ⟨tree, after, built, nesting⟩ :=
    @buildTo_of_nesting ⟨"s", .standard⟩ (nestedDisk 2) "out/t.json" 6 (by decide +kernel)
  refine ⟨tree, after, built, ?_⟩
  apply (written_document_reloaded built).1.mpr
  rw [FileTree.shallow_iff, nesting]
  decide

end Builder
end TreeShell
