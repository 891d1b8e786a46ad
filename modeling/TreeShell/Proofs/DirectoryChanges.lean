import TreeShell.Proofs.NodePaths
import TreeShell.Proofs.WorkingDirectory

/-! Changes of directory at the prompt. A session that stands in a folder of a ready tree moves where
its argument resolves to a folder, and is answered by a blank there; anywhere else it stays. -/

namespace TreeShell

theorem Node.isFolder_of_mem_children {node child : Node} {name : String}
    (member : (name, child) ∈ node.children) : node.isFolder = true := by
  cases node with
  | folder => rfl
  | file => cases member

theorem Node.isFolder_of_descend {node inner : Node} {names : List String}
    (reached : node.descend names = some inner) (isFolder : inner.isFolder = true) :
    node.isFolder = true := by
  cases names with
  | nil => exact Option.some.inj reached ▸ isFolder
  | cons name rest =>
    cases Chain.of_descend reached with
    | step member later => exact isFolder_of_mem_children member

theorem Command.ofLine_cd {argument : String} (word : Text.Word argument) :
    ofLine ("cd" ++ " " ++ argument) = .cd (some argument) := by
  have named : Text.Word "cd" := ⟨by decide, Text.unbroken_of_all (by decide)⟩
  rw [ofLine, Text.words_pair named word]
  rfl

namespace Session
open FileTree Text

variable {session : Session} {tree : FileTree} {here : Node} {line path : String}
  {argument : Option String}

/-- A line takes a session to `path` beside a ready tree, and a blank answers it. -/
structure MovesTo (session : Session) (tree : FileTree) (line path : String) : Prop where
  path_eq : (session.submitLine (.ready tree) line).1.path = path
  answered : (session.submitLine (.ready tree) line).2 = [.append ⟨session.path, line, .blank⟩]

theorem submitLine_cd (isHere : tree.FolderAt session.path here)
    (isCd : Command.ofLine line = .cd argument) :
    let browsed := browse tree session.path (.cd argument)
    (session.submitLine (.ready tree) line).1.path = browsed.1 ∧
      (session.submitLine (.ready tree) line).2 = [.append ⟨session.path, line, browsed.2⟩] := by
  have needsTree : (Command.ofLine line).needsTree = true := by
    rw [isCd]
    rfl
  constructor
  · rw [(submitLine_of_ready needsTree).1, isCd, directory_of_folderAt isHere]
  · rw [(submitLine_of_ready needsTree).2, isCd, directory_of_folderAt isHere]

theorem refused_of_cd {cause : ShellError} (isHere : tree.FolderAt session.path here)
    (isCd : Command.ofLine line = .cd argument)
    (failed : tree.resolveFolder session.path argument = .error cause) :
    (session.submitLine (.ready tree) line).1.path = session.path ∧
      (session.submitLine (.ready tree) line).2 = [.append ⟨session.path, line, .error cause⟩] := by
  have browsed := submitLine_cd isHere isCd
  rwa [browse, failed] at browsed

theorem movesTo_iff (isHere : tree.FolderAt session.path here)
    (isCd : Command.ofLine line = .cd argument) :
    session.MovesTo tree line path ↔ ∃ folder, tree.resolve session.path argument = .ok folder ∧
      folder.isFolder = true ∧ folder.path = path := by
  cases resolved : tree.resolveFolder session.path argument with
  | ok folder =>
    obtain ⟨answers, isFolder⟩ := resolveFolder_eq_ok_iff.mp resolved
    have browsed := submitLine_cd isHere isCd
    rw [browse, resolved] at browsed
    constructor
    · intro moves
      exact ⟨folder, answers, isFolder, browsed.1.symm.trans moves.path_eq⟩
    · rintro ⟨other, same, _, rfl⟩
      cases answers.symm.trans same
      exact ⟨browsed.1, browsed.2⟩
  | error cause =>
    obtain ⟨_, refused⟩ := refused_of_cd isHere isCd resolved
    apply iff_of_false
    · intro moves
      cases refused.symm.trans moves.answered
    · rintro ⟨folder, answers, isFolder, _⟩
      cases resolved.symm.trans (resolveFolder_eq_ok_iff.mpr ⟨answers, isFolder⟩)

theorem movesTo_cd_iff {typed : String} (isHere : tree.FolderAt session.path here) (word : Word typed) :
    session.MovesTo tree ("cd" ++ " " ++ typed) path ↔
      ∃ folder, tree.resolve session.path (some typed) = .ok folder ∧ folder.isFolder = true ∧
        folder.path = path :=
  movesTo_iff isHere (Command.ofLine_cd word)

end Session
end TreeShell
