import TreeShell.CommandLine.Run
import TreeShell.Proofs.CompletionResolution
import TreeShell.Proofs.DisplayedRuns
import TreeShell.Proofs.WrittenDocuments

/-! Sessions whose lines are known beforehand. Answering them in turn is a run of the session that ends
with the first line that hides it, and what such a task answers is the text of that run. -/

namespace TreeShell

theorem Command.ofLine_eq_exit_iff {line : String} :
    ofLine line = .exit ↔ (Text.words line).head? = some "exit" := by
  unfold ofLine
  cases Text.words line with
  | nil => simp [ofWords]
  | cons name arguments =>
    simp only [ofWords, List.head?_cons, Option.some.injEq]
    constructor
    · intro ends
      repeat' split at ends
      all_goals simp_all
    · rintro rfl
      rfl

/-- Lines up to the first one whose first word is `exit`, that line included. -/
def throughExit : List String → List String
  | [] => []
  | line :: rest =>
    if (Text.words line).head? = some "exit" then [line] else line :: throughExit rest

namespace Text

private theorem exists_trimmed (text : String) :
    ∃ feeds, text = trimLineFeeds text ++ String.ofList (List.replicate feeds '\n') ∧
      (trimLineFeeds text).toList.getLast? ≠ some '\n' := by
  have closing : text.toList.reverse.takeWhile (· == '\n') =
      List.replicate (text.toList.reverse.takeWhile (· == '\n')).length '\n' := by
    apply List.eq_replicate_of_mem
    intro character inside
    exact beq_iff_eq.mp (List.all_eq_true.mp List.all_takeWhile character inside)
  refine ⟨(text.toList.reverse.takeWhile (· == '\n')).length, ?_, ?_⟩
  · have parted : text.toList.reverse.takeWhile (· == '\n') ++ text.toList.reverse.dropWhile (· == '\n') =
        text.toList.reverse := List.takeWhile_append_dropWhile
    apply String.toList_inj.mp
    rw [String.toList_append, trimLineFeeds, String.toList_ofList, String.toList_ofList,
      ← List.reverse_replicate, ← closing, ← List.reverse_append, parted, List.reverse_reverse]
  · rw [trimLineFeeds, String.toList_ofList, List.getLast?_reverse]
    intro last
    have kept := List.head?_dropWhile_not (· == '\n') text.toList.reverse
    rw [last] at kept
    cases kept

end Text

namespace Session

private theorem submitLines_cons (slot : Slot) (session : Session) (line : String) (rest : List String) :
    session.submitLines slot (line :: rest) =
      if (session.submitLine slot line).1.hidden then session.submitLine slot line
      else
        (((session.submitLine slot line).1.submitLines slot rest).1,
          (session.submitLine slot line).2 ++ ((session.submitLine slot line).1.submitLines slot rest).2) :=
  rfl

/-- Submitting lines until one of them hides the session is a run through the first one that asks
for it. -/
theorem submitLines_eq (slot : Slot) (session : Session) (visible : session.hidden = false)
    (lines : List String) :
    session.submitLines slot lines =
      (((⟨slot, session⟩ : World).run (submissions (throughExit lines))).session,
        (⟨slot, session⟩ : World).told (submissions (throughExit lines))) := by
  induction lines generalizing session with
  | nil => rfl
  | cons line rest ih =>
    have hidden : (session.submitLine slot line).1.hidden = (Command.ofLine line == .exit) := by
      simp [submitLine, visible]
    rw [submitLines_cons, throughExit]
    by_cases ends : (Text.words line).head? = some "exit"
    · have hides : (session.submitLine slot line).1.hidden = true := by
        rw [hidden, Command.ofLine_eq_exit_iff.mpr ends]
        rfl
      rw [if_pos hides, if_pos ends]
      exact congrArg (Prod.mk _) (List.append_nil _).symm
    · have stays : (session.submitLine slot line).1.hidden = false := by
        rw [hidden, beq_eq_false_iff_ne]
        exact fun hides => ends (Command.ofLine_eq_exit_iff.mp hides)
      rw [if_neg (Bool.eq_false_iff.mp stays), if_neg ends, ih _ stays]
      rfl

private theorem transcript_eq (slot : Slot) (lines : List String) :
    transcript slot lines = (World.start slot).told (submissions (throughExit lines)) :=
  congrArg Prod.snd (submitLines_eq slot start rfl lines)

end Session

namespace Settings

variable {settings : Settings} {around : Surroundings} {origin : Origin} {look : Look}
  {lines : List String} {source : TreeSource}

/-- A configured script is answered with what its display shows, whatever comes of loading the tree. -/
theorem run_exec_of_configured (configured : settings.treeSource origin = .ok source)
    (outside : around.insideRuntime = false) :
    settings.run around (.exec origin look lines) =
      .ok ⟨around.disk, "", Text.trimLineFeeds ((Console.start (around.loaded source) "").run
        (settings.renderer look).display (submissions (throughExit lines))).shown⟩ := by
  have shown := (Console.displays_of_run (settings.renderer look) (around.loaded source)
    (submissions (throughExit lines))).written
  have apart : around.checkRuntime = .ok () := by
    rw [Surroundings.checkRuntime, outside]
    rfl
  rw [shown, ← Session.transcript_eq, run, runExec, configured, apart]
  rfl

/-- One story of a session is told to both displays and by a script. Every action tells the displays
what it says; one of them keeps it since the last clearing, the other writes all of it. Whatever is in
the slot, a script is answered through its first `exit`, and its answer is what is written for that,
without closing line feeds. -/
theorem displays_of_runs_and_scripts :
    (∀ renderer slot actions, Console.SameStory renderer slot actions) ∧
    (∀ (world : World) action, world.Tells action (world.said action)) ∧
    (∀ slot lines, Session.transcript slot lines =
      (World.start slot).told (submissions (throughExit lines))) ∧
    ∀ (settings : Settings) (around : Surroundings) origin look lines source,
      settings.treeSource origin = .ok source → around.insideRuntime = false →
      ∃ answer feeds, settings.run around (.exec origin look lines) = .ok ⟨around.disk, "", answer⟩ ∧
        ((Console.start (around.loaded source) "").run (settings.renderer look).display
          (submissions (throughExit lines))).shown = answer ++ String.ofList (List.replicate feeds '\n') ∧
        answer.toList.getLast? ≠ some '\n' := by
  refine ⟨Console.displays_of_run, World.tells_said, Session.transcript_eq, ?_⟩
  intro settings around origin look lines source configured outside
  obtain ⟨feeds, parted, closed⟩ := Text.exists_trimmed ((Console.start (around.loaded source) "").run
    (settings.renderer look).display (submissions (throughExit lines))).shown
  exact ⟨_, feeds, run_exec_of_configured configured outside, parted, closed⟩

/-- A document that was written from a shallow tree is loaded from wherever it is served. -/
private theorem loaded_of_served {tree : FileTree} {location complaint : String} {timeoutSeconds status : Nat}
    (answered : around.service ⟨location, "application/json", timeoutSeconds⟩ =
      .answer ⟨status, complaint, .ok (Text.Utf8.encode tree.toDocument)⟩)
    (accepted : status < 400) (shallow : tree.Shallow) :
    around.loaded (.remote location timeoutSeconds) = .ready tree := by
  have decoded : FileTree.decode (Text.Utf8.encode tree.toDocument) = .ok tree := by
    rw [FileTree.decode, FileTree.ofBytes_toDocument, if_pos (tree.shallow_iff.mp shallow)]
    rfl
  have served : around.service.document ⟨location, "application/json", timeoutSeconds⟩ =
      .ok (Text.Utf8.encode tree.toDocument) := by
    simp [Service.document, answered, Answer.document, Answer.isRefusal, Nat.not_le.mpr accepted,
      Except.mapError]
  simp only [Surroundings.loaded, Slot.loadFrom, TreeSource.fetch, served, decoded]
  rfl

/-- Surroundings in which every request has the same response. -/
def servedBy (response : Response) : Surroundings where
  disk := ⟨.directory [], []⟩
  environment := ⟨[], none⟩
  service := fun _ => response
  formats := [.toml]
  objection := fun _ => "EOF while parsing a value at line 1 column 0"
  input := ""
  insideRuntime := false

/-- A script over a served document, with a line behind the one that ends it. -/
def servedScript : Task :=
  .exec ⟨none, some "https://host/tree.json", none⟩ ⟨some .plain, none⟩
    ["cat readme", "exit now", "help"]

/-- What a plain display shows of the lines that the script comes to. -/
def shownFrom (slot : Slot) : String :=
  ((Console.start slot "").run (Renderer.display ⟨.plain, .trusted, "$"⟩)
    [.event (.line "cat readme"), .event (.line "exit now")]).shown

/-- The script is answered from a document that is served, and with the reason where that is
refused. -/
theorem scripts_over_served_and_refused_documents :
    let source := TreeSource.remote "https://host/tree.json" 10
    let found := servedBy
      (.answer ⟨200, "", .ok (Text.Utf8.encode FileTree.sampleTree.toDocument)⟩)
    let missing := servedBy (.answer ⟨404, "404 Not Found", .ok []⟩)
    found.loaded source = .ready FileTree.sampleTree ∧
      missing.loaded source = .unavailable "Failed to fetch tree: 404 Not Found" ∧
      shownFrom (.ready FileTree.sampleTree) = "/Home$ cat readme\nHello\n" ∧
      (∃ answer feeds, standard.run found servedScript = .ok ⟨found.disk, "", answer⟩ ∧
        shownFrom (.ready FileTree.sampleTree) =
          answer ++ String.ofList (List.replicate feeds '\n')) ∧
      ∃ answer feeds, standard.run missing servedScript = .ok ⟨missing.disk, "", answer⟩ ∧
        shownFrom (.unavailable "Failed to fetch tree: 404 Not Found") =
          answer ++ String.ofList (List.replicate feeds '\n') := by
  intro source found missing
  have ready : found.loaded source = .ready FileTree.sampleTree :=
    loaded_of_served rfl (by decide) ((FileTree.shallow_iff _).mpr (by decide +kernel))
  have refused : missing.loaded source = .unavailable "Failed to fetch tree: 404 Not Found" := by
    decide +kernel
  have ended : throughExit ["cat readme", "exit now", "help"] = ["cat readme", "exit now"] := by decide
  have answers (around : Surroundings) (outside : around.insideRuntime = false) :=
    displays_of_runs_and_scripts.2.2.2 standard around ⟨none, some "https://host/tree.json", none⟩
      ⟨some .plain, none⟩ ["cat readme", "exit now", "help"] source rfl outside
  rw [ended] at answers
  refine ⟨ready, refused, by decide +kernel, ?_, ?_⟩
  · obtain ⟨answer, feeds, ran, shown, _⟩ := answers found rfl
    rw [ready] at shown
    exact ⟨answer, feeds, ran, shown⟩
  · obtain ⟨answer, feeds, ran, shown, _⟩ := answers missing rfl
    rw [refused] at shown
    exact ⟨answer, feeds, ran, shown⟩

end Settings
end TreeShell
