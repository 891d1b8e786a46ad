import TreeShell.Proofs.ArgumentTargets
import TreeShell.Proofs.ClimbingOut
import TreeShell.Proofs.FailedLines

/-! What is answered to a command that looks for something. What its argument leads to and the kind that it
wants make up the cases, each with an answer of its own. Where an answer tells an argument, it tells the
word that was typed. -/

namespace TreeShell

namespace FileTree

/-- What is answered to a command that looks for something, and where the session stands afterwards. -/
inductive Answers (tree : FileTree) (names : List String) (current : String) :
    Command → String × Body → Prop where
  | text {typed file content} (leads : tree.Leads names (some typed) file)
      (holds : file.content? = some content) :
      Answers tree names current (.cat (some typed)) (current, .text content)
  | notAFile {typed folder} (leads : tree.Leads names (some typed) folder)
      (isFolder : folder.isFolder = true) :
      Answers tree names current (.cat (some typed)) (current, .error (.notAFile typed))
  | catTop {typed} (overshoots : Overshoots names typed) :
      Answers tree names current (.cat (some typed)) (current, .error .noParentDirectory)
  | bare : Answers tree names current (.cat none) (current, .error .missingArgument)
  | noFile {typed} (nowhere : ∀ node, ¬tree.Leads names (some typed) node)
      (within : ¬Overshoots names typed) :
      Answers tree names current (.cat (some typed)) (current, .error (.noSuchFile typed))
  | moved {argument folder} (leads : tree.Leads names argument folder)
      (isFolder : folder.isFolder = true) :
      Answers tree names current (.cd argument) (folder.path, .blank)
  | notADirectory {typed file} (leads : tree.Leads names (some typed) file)
      (isFile : file.isFile = true) :
      Answers tree names current (.cd (some typed)) (current, .error (.notADirectory typed))
  | cdTop {typed} (overshoots : Overshoots names typed) :
      Answers tree names current (.cd (some typed)) (current, .error .noParentDirectory)
  | noDirectory {typed} (nowhere : ∀ node, ¬tree.Leads names (some typed) node)
      (within : ¬Overshoots names typed) :
      Answers tree names current (.cd (some typed)) (current, .error (.noSuchDirectory typed))

end FileTree

namespace Session
open FileTree

variable {tree : FileTree} {names : List String} {current typed : String} {folder node : Node}
  {argument : Option String} {cause : ShellError} {outcome : String × Body}

theorem browse_cat_of_ok (filled : some typed ≠ some "")
    (resolved : tree.resolve current (some typed) = .ok node) :
    browse tree current (.cat (some typed)) =
      (current, (node.content?.map Body.text).getD (.error (.notAFile typed))) := by
  have given : (typed == "") = false := by simpa using filled
  cases node <;> simp [browse, resolveFile, given, resolved, Node.isFile, Node.isFolder, Node.content?]

theorem browse_cat_of_error (filled : some typed ≠ some "")
    (resolved : tree.resolve current (some typed) = .error cause) :
    browse tree current (.cat (some typed)) = (current, .error (match cause with
      | .noSuchPath argument => .noSuchFile argument
      | cause => cause)) := by
  have given : (typed == "") = false := by simpa using filled
  cases cause <;> simp [browse, resolveFile, given, resolved]

theorem browse_cd_of_ok (resolved : tree.resolve current argument = .ok node) :
    browse tree current (.cd argument) =
      if node.isFolder then (node.path, .blank)
      else (current, .error (.notADirectory (argument.getD ""))) := by
  cases kind : node.isFolder with
  | true => simp [browse, resolveFolder, resolved, kind]
  | false => simp [browse, resolveFolder, resolved, kind]

theorem browse_cd_of_error (resolved : tree.resolve current argument = .error cause) :
    browse tree current (.cd argument) = (current, .error (match cause with
      | .noSuchPath argument => .noSuchDirectory argument
      | cause => cause)) := by
  cases cause <;> simp [browse, resolveFolder, resolved]

theorem browse_cat_iff (here : tree.FolderAt current folder)
    (reached : tree.root.descend names = some folder) (filled : argument ≠ some "") :
    browse tree current (.cat argument) = outcome ↔
      tree.Answers names current (.cat argument) outcome := by
  constructor
  · rintro rfl
    cases argument with
    | none => exact .bare
    | some typed =>
      have answered := resolves here reached (some typed)
      generalize resolved : tree.resolve current (some typed) = result at answered
      cases answered with
      | @found _ node leads =>
        rw [browse_cat_of_ok filled resolved]
        cases node with
        | folder => exact .notAFile leads rfl
        | file => exact .text leads rfl
      | top overshoots =>
        rw [browse_cat_of_error filled resolved]
        exact .catTop overshoots
      | lost nowhere within =>
        rw [browse_cat_of_error filled resolved]
        exact .noFile nowhere within
  · intro answers
    cases answers with
    | bare => rfl
    | text leads holds =>
      have resolved := (resolve_eq_ok_iff_leads here reached).mpr leads
      rw [browse_cat_of_ok filled resolved, holds]
      rfl
    | @notAFile typed folder leads isFolder =>
      have resolved := (resolve_eq_ok_iff_leads here reached).mpr leads
      rw [browse_cat_of_ok filled resolved]
      cases folder with
      | folder => rfl
      | file => cases isFolder
    | catTop overshoots =>
      rw [browse_cat_of_error filled ((resolve_eq_iff here reached).mpr (.top overshoots))]
    | noFile nowhere within =>
      rw [browse_cat_of_error filled ((resolve_eq_iff here reached).mpr (.lost nowhere within))]

theorem browse_cd_iff (here : tree.FolderAt current folder)
    (reached : tree.root.descend names = some folder) :
    browse tree current (.cd argument) = outcome ↔
      tree.Answers names current (.cd argument) outcome := by
  constructor
  · rintro rfl
    have answered := resolves here reached argument
    generalize resolved : tree.resolve current argument = result at answered
    cases answered with
    | found leads =>
      rw [browse_cd_of_ok resolved]
      split
      · rename_i isFolder
        exact .moved leads isFolder
      · rename_i notFolder
        cases argument with
        | none =>
          cases leads
          exact absurd tree.wellFormed.folder notFolder
        | some typed => exact .notADirectory leads (by simpa [Node.isFile] using notFolder)
    | top overshoots =>
      rw [browse_cd_of_error resolved]
      exact .cdTop overshoots
    | lost nowhere within =>
      rw [browse_cd_of_error resolved]
      exact .noDirectory nowhere within
  · intro answers
    cases answers with
    | moved leads isFolder =>
      have resolved := (resolve_eq_ok_iff_leads here reached).mpr leads
      rw [browse_cd_of_ok resolved, if_pos isFolder]
    | @notADirectory typed file leads isFile =>
      have resolved := (resolve_eq_ok_iff_leads here reached).mpr leads
      have notFolder : ¬file.isFolder = true := by simpa [Node.isFile] using isFile
      rw [browse_cd_of_ok resolved, if_neg notFolder]
      rfl
    | cdTop overshoots => rw [browse_cd_of_error ((resolve_eq_iff here reached).mpr (.top overshoots))]
    | noDirectory nowhere within =>
      rw [browse_cd_of_error ((resolve_eq_iff here reached).mpr (.lost nowhere within))]

end Session

/-- What an error tells is a word of the line, as it was typed, and never just that there is no such
path. -/
def ShellError.QuotedFrom (line : String) : ShellError → Prop
  | .noSuchPath _ => False
  | .noSuchFile argument | .noSuchDirectory argument | .notAFile argument | .notADirectory argument =>
    (Text.words line)[1]? = some argument
  | .unrecognizedCommand name => (Text.words line).head? = some name
  | .missingArgument | .noParentDirectory | .systemNotReady | .fileSystemUnavailable _ => True

namespace Command
open Text

def ReadFrom (line : String) : Command → Prop
  | .cat argument | .cd argument => (words line)[1]? = argument
  | .unknown name => (words line).head? = some name
  | .empty | .clear | .help | .exit | .ls => True

variable {line name : String}

private theorem readFrom_ofLine (line : String) : (ofLine line).ReadFrom line := by
  unfold ofLine
  cases parted : words line with
  | nil => trivial
  | cons name rest =>
    rw [ofWords]
    repeat' split
    all_goals simp [ReadFrom, parted, List.head?_eq_getElem?]

private theorem ofLine_of_head (opened : (words line).head? = some name) :
    ∃ rest, (words line)[1]? = rest.head? ∧ ofLine line = ofWords (name :: rest) := by
  obtain ⟨rest, parted⟩ := List.head?_eq_some_iff.mp opened
  refine ⟨rest, ?_, ?_⟩
  · rw [parted, List.getElem?_cons_succ, List.head?_eq_getElem?]
  · rw [ofLine, parted]

private theorem ofLine_of_cat (opened : (words line).head? = some "cat") :
    ofLine line = .cat (words line)[1]? := by
  obtain ⟨rest, second, read⟩ := ofLine_of_head opened
  rw [read, second]
  rfl

private theorem ofLine_of_cd (opened : (words line).head? = some "cd") :
    ofLine line = .cd (words line)[1]? := by
  obtain ⟨rest, second, read⟩ := ofLine_of_head opened
  rw [read, second]
  rfl

end Command

namespace Session
open FileTree Text

variable {session : Session} {slot : Slot} {tree : FileTree} {names : List String} {current line : String}
  {argument : Option String} {cause : ShellError}

private theorem quoted_of_cat (failed : (browse tree current (.cat argument)).2 = .error cause)
    (typed : (words line)[1]? = argument) : cause.QuotedFrom line := by
  by_cases bare : argument = none ∨ argument = some ""
  · rcases bare with rfl | rfl
    all_goals
      cases failed
      trivial
  · obtain ⟨absent, filled⟩ := not_or.mp bare
    obtain ⟨text, rfl⟩ := Option.ne_none_iff_exists'.mp absent
    cases resolved : tree.resolve current (some text) with
    | ok node =>
      rw [browse_cat_of_ok filled resolved] at failed
      cases node with
      | folder =>
        cases failed
        exact typed
      | file => cases failed
    | error cause =>
      rw [browse_cat_of_error filled resolved] at failed
      rcases resolve_error_cases resolved with ⟨rfl, _⟩ | rfl
      · cases failed
        trivial
      · cases failed
        exact typed

private theorem quoted_of_cd (failed : (browse tree current (.cd argument)).2 = .error cause)
    (typed : (words line)[1]? = argument) : cause.QuotedFrom line := by
  cases resolved : tree.resolve current argument with
  | ok node =>
    rw [browse_cd_of_ok resolved] at failed
    split at failed
    · cases failed
    · rename_i notFolder
      cases argument with
      | none =>
        cases resolved
        exact absurd tree.wellFormed.folder notFolder
      | some text =>
        cases failed
        exact typed
  | error cause =>
    rw [browse_cd_of_error resolved] at failed
    cases argument with
    | none => cases resolved
    | some text =>
      rcases resolve_error_cases resolved with ⟨rfl, _⟩ | rfl
      · cases failed
        trivial
      · cases failed
        exact typed

private theorem quoted_of_unready (failed : slot.require = .error cause) : cause.QuotedFrom line := by
  cases slot with
  | ready => cases failed
  | loading | unavailable =>
    cases failed
    trivial

theorem quoted_of_dispatch
    (failed : (session.dispatch slot (Command.ofLine line)).2 = some (.error cause)) :
    cause.QuotedFrom line := by
  have read := Command.readFrom_ofLine line
  cases seen : Command.ofLine line with
  | empty | clear | help | exit =>
    rw [seen] at failed
    cases failed
  | unknown name =>
    rw [seen] at failed read
    cases failed
    exact read
  | cat argument =>
    rw [seen] at failed read
    cases slot with
    | ready tree => exact quoted_of_cat (Option.some.inj failed) read
    | loading | unavailable =>
      cases failed
      trivial
  | cd argument =>
    rw [seen] at failed read
    cases slot with
    | ready tree => exact quoted_of_cd (Option.some.inj failed) read
    | loading | unavailable =>
      cases failed
      trivial
  | ls =>
    rw [seen] at failed
    cases slot with
    | ready tree => cases failed
    | loading | unavailable =>
      cases failed
      trivial

private theorem require_of_preview (failed : session.preview slot line = .error cause) :
    slot.require = .error cause := by
  unfold preview at failed
  split at failed
  · cases failed
  · split at failed
    · rename_i seen
      cases failed
      exact seen
    · cases failed

theorem quoted_of_completeInput {entry : Transcript} (shown : .append entry ∈ (session.completeInput slot).2)
    (failed : entry.body = .error cause) : cause.QuotedFrom entry.command := by
  unfold completeInput at shown
  split at shown
  · rename_i seen
    cases List.mem_singleton.mp shown
    cases failed
    exact quoted_of_unready (require_of_preview seen)
  · cases shown
  · cases shown
  all_goals
    cases List.mem_singleton.mp shown
    cases failed

/-- A session beside a ready tree stands there and has given this answer after a line. -/
structure Gives (session : Session) (tree : FileTree) (line : String) (outcome : String × Body) : Prop where
  path_eq : (session.submitLine (.ready tree) line).1.path = outcome.1
  said : (session.submitLine (.ready tree) line).2 = [.append ⟨session.path, line, outcome.2⟩]

theorem gives_iff {folder : Node} {outcome : String × Body} (isHere : tree.FolderAt session.path folder)
    (needsTree : (Command.ofLine line).needsTree = true) :
    session.Gives tree line outcome ↔ browse tree session.path (Command.ofLine line) = outcome := by
  have moved : (session.submitLine (.ready tree) line).1.path =
      (browse tree session.path (Command.ofLine line)).1 := by
    rw [(submitLine_of_ready needsTree).1, directory_of_folderAt isHere]
  have said : (session.submitLine (.ready tree) line).2 =
      [.append ⟨session.path, line, (browse tree session.path (Command.ofLine line)).2⟩] := by
    rw [(submitLine_of_ready needsTree).2, directory_of_folderAt isHere]
  constructor
  · intro gives
    have same := said.symm.trans gives.said
    simp only [List.cons.injEq, Signal.append.injEq, Transcript.mk.injEq, true_and, and_true] at same
    exact Prod.ext (moved.symm.trans gives.path_eq) same
  · rintro rfl
    exact ⟨moved, said⟩

/-- To a line of this command the one answer is given that applies. -/
structure AnswersBy (session : Session) (tree : FileTree) (names : List String) (line : String)
    (command : Command) : Prop where
  applies : ∃! outcome, tree.Answers names session.path command outcome
  gives_iff : ∀ outcome, session.Gives tree line outcome ↔
    tree.Answers names session.path command outcome

theorem answersBy_of_browse {folder : Node} {command : Command} (isHere : tree.FolderAt session.path folder)
    (read : Command.ofLine line = command) (needsTree : command.needsTree = true)
    (browses : ∀ outcome, browse tree session.path command = outcome ↔
      tree.Answers names session.path command outcome) :
    session.AnswersBy tree names line command := by
  subst read
  constructor
  · refine ⟨_, (browses _).mp rfl, fun other applies => ?_⟩
    exact ((browses other).mpr applies).symm
  · intro outcome
    rw [gives_iff isHere needsTree, browses]

end Session

namespace World
open Session

variable {world : World} {action : Action} {entry : Transcript} {cause : ShellError}

theorem quoted_of_said (shown : .append entry ∈ world.said action) (failed : entry.body = .error cause) :
    cause.QuotedFrom entry.command := by
  cases submitted : world.submitted? action with
  | some line =>
    rw [said_of_submitted submitted] at shown
    obtain ⟨body, answered, rfl⟩ := exists_answer_of_mem shown
    subst failed
    exact quoted_of_dispatch answered
  | none =>
    cases action with
    | change => cases shown
    | event event =>
      cases event with
      | line | submit => cases submitted
      | type | recallPrevious | recallNext => cases shown
      | complete => exact quoted_of_completeInput shown failed

theorem quoted_of_told {actions : List Action} (shown : .append entry ∈ world.told actions)
    (failed : entry.body = .error cause) : cause.QuotedFrom entry.command := by
  induction actions generalizing world with
  | nil => cases shown
  | cons action rest ih =>
    rcases List.mem_append.mp shown with first | later
    · exact quoted_of_said first failed
    · exact ih later

/-- In a folder of a ready tree, a line that looks for something is given the one answer that applies, by
what its argument leads to and by the kind of that. In no run does an error tell anything but a word of
its line as it was typed, and none tells only that there is no such path. -/
theorem answers_quote_what_was_typed :
    (∀ (session : Session) tree names, session.StandsIn tree names →
      (∀ argument node, tree.resolve session.path argument = .ok node ↔
        tree.Leads names argument node) ∧
      ∀ line,
        ((Text.words line).head? = some "cat" →
          session.AnswersBy tree names line (.cat (Text.words line)[1]?)) ∧
        ((Text.words line).head? = some "cd" →
          session.AnswersBy tree names line (.cd (Text.words line)[1]?))) ∧
    ∀ slot actions entry cause, .append entry ∈ (start slot).told actions →
      entry.body = .error cause → cause.QuotedFrom entry.command := by
  refine ⟨?_, fun _ _ _ _ => quoted_of_told⟩
  intro session tree names stands
  obtain ⟨folder, isHere, reached⟩ := stands.exists_folderAt
  refine ⟨fun _ _ => FileTree.resolve_eq_ok_iff_leads isHere reached, fun line => ⟨?_, ?_⟩⟩
  · intro opened
    have filled : (Text.words line)[1]? ≠ some "" := by
      intro empty
      exact (Text.word_of_mem_words (List.mem_of_getElem? empty)).1 rfl
    apply answersBy_of_browse isHere (Command.ofLine_of_cat opened) rfl
    exact fun _ => browse_cat_iff isHere reached filled
  · intro opened
    apply answersBy_of_browse isHere (Command.ofLine_of_cd opened) rfl
    exact fun _ => browse_cd_iff isHere reached

/-- At the root of the sample, a folder is asked for as a file and a climb is tried. -/
theorem answers_in_sampleTree :
    let refused : Transcript := ⟨"/Home", "cat  Docs/ now", .error (.notAFile "Docs/")⟩
    Session.start.StandsIn FileTree.sampleTree [] ∧
      (Text.words "cat  Docs/ now").head? = some "cat" ∧ (Text.words "cd ../").head? = some "cd" ∧
      Session.start.Gives FileTree.sampleTree "cat  Docs/ now" ("/Home", refused.body) ∧
      Session.start.Gives FileTree.sampleTree "cd ../" ("/Home", .error .noParentDirectory) ∧
      .append refused ∈ (start (.ready FileTree.sampleTree)).told [.event (.line "cat  Docs/ now")] ∧
      (Text.words "cat  Docs/ now")[1]? = some "Docs/" := by
  intro refused
  have stands : Session.start.StandsIn FileTree.sampleTree [] := standsIn_of_descend rfl rfl rfl
  obtain ⟨answers, quotes⟩ := answers_quote_what_was_typed
  obtain ⟨_, lines⟩ := answers Session.start FileTree.sampleTree [] stands
  have leads : FileTree.sampleTree.Leads [] (some "Docs/") FileTree.sampleDocs :=
    .down (by decide) (.of_descend (by decide))
  have folder : Session.start.Gives FileTree.sampleTree "cat  Docs/ now" ("/Home", refused.body) :=
    (((lines "cat  Docs/ now").1 (by decide)).gives_iff _).mpr (.notAFile leads rfl)
  have climb : Session.start.Gives FileTree.sampleTree "cd ../" ("/Home", .error .noParentDirectory) :=
    (((lines "cd ../").2 (by decide)).gives_iff _).mpr (.cdTop ⟨by decide, rfl⟩)
  have shown : .append refused ∈
      (Session.start.submitLine (.ready FileTree.sampleTree) "cat  Docs/ now").2 := by
    rw [folder.said]
    exact List.mem_singleton_self _
  have told : .append refused ∈
      (start (.ready FileTree.sampleTree)).told [.event (.line "cat  Docs/ now")] :=
    List.mem_append_left _ shown
  exact ⟨stands, by decide, by decide, folder, climb, told, quotes _ _ refused _ told rfl⟩

end World
end TreeShell
