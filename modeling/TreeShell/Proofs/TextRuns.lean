import TreeShell.Text.Blank

/-! Cutting at gaps is undone by joining at gaps. Text around a gap is cut on each
side of it alone, and text without a gap is one run, so the runs of a text that was
put together from runs are known without cutting it again. -/

namespace TreeShell.Text

variable {isGap : Char → Bool}

theorem pieces_ne_nil (text : List Char) : pieces isGap text ≠ [] := by
  induction text with
  | nil => simp [pieces]
  | cons character rest ih =>
    simp only [pieces]
    split
    · simp
    · cases seen : pieces isGap rest with
      | nil => exact absurd seen ih
      | cons head tail => simp

private theorem pieces_append_gap {gap : Char} (isIt : isGap gap = true) (first second : List Char) :
    pieces isGap (first ++ gap :: second) = pieces isGap first ++ pieces isGap second := by
  induction first with
  | nil => simp [pieces, isIt]
  | cons character rest ih =>
    simp only [List.cons_append, pieces, ih]
    split
    · rfl
    · cases seen : pieces isGap rest with
      | nil => exact absurd seen (pieces_ne_nil rest)
      | cons head tail => rfl

private theorem pieces_filled {text : List Char} (filled : ∀ character ∈ text, isGap character = false) :
    pieces isGap text = [text] := by
  induction text with
  | nil => rfl
  | cons character rest ih =>
    have inside := ih fun later member => filled later (List.mem_cons_of_mem _ member)
    simp [pieces, filled character, inside]

private theorem mem_piece {text piece : List Char} (member : piece ∈ pieces isGap text) :
    ∀ character ∈ piece, character ∈ text ∧ isGap character = false := by
  induction text generalizing piece with
  | nil =>
    intro character inside
    cases List.mem_singleton.mp member
    cases inside
  | cons head rest ih =>
    simp only [pieces] at member
    split at member
    · rcases List.mem_cons.mp member with rfl | later
      · simp
      · intro character inside
        exact (ih later character inside).imp_left (List.mem_cons_of_mem _)
    · rename_i noGap
      cases seen : pieces isGap rest with
      | nil => exact absurd seen (pieces_ne_nil rest)
      | cons first others =>
        rw [seen, List.modifyHead_cons] at member
        intro character inside
        rcases List.mem_cons.mp member with rfl | later
        · rcases List.mem_cons.mp inside with rfl | deeper
          · exact ⟨List.mem_cons_self, by simpa using noGap⟩
          · exact (ih (seen ▸ List.mem_cons_self) character deeper).imp_left
              (List.mem_cons_of_mem _)
        · exact (ih (seen ▸ List.mem_cons_of_mem _ later) character inside).imp_left
            (List.mem_cons_of_mem _)

theorem runs_of_gap {gap : Char} (isIt : isGap gap = true) {text first second : String}
    (parted : text.toList = first.toList ++ gap :: second.toList) :
    runs isGap text = runs isGap first ++ runs isGap second := by
  simp [runs, parted, pieces_append_gap isIt]

theorem runs_filled {text : String} (named : text ≠ "")
    (filled : ∀ character ∈ text.toList, isGap character = false) :
    runs isGap text = [text] := by
  simp [runs, pieces_filled filled, named]

@[simp] theorem runs_empty : runs isGap "" = [] := by
  simp [runs, pieces]

theorem mem_runs {text run : String} (member : run ∈ runs isGap text) :
    run ≠ "" ∧ ∀ character ∈ run.toList, character ∈ text.toList ∧ isGap character = false := by
  obtain ⟨piece, kept, rfl⟩ := List.mem_map.mp member
  obtain ⟨inside, filled⟩ := List.mem_filter.mp kept
  refine ⟨?_, by simpa using mem_piece inside⟩
  intro empty
  simp [String.ofList_eq_empty_iff.mp empty] at filled

def Unbroken (text : String) : Prop :=
  ∀ character ∈ text.toList, isBlank character = false

theorem unbroken_of_all {text : String}
    (all : (text.toList.all fun character => !isBlank character) = true) : Unbroken text := by
  intro character member
  simpa using List.all_eq_true.mp all character member

/-- A word is what the words of a line are: text without a blank, and some of it. -/
def Word (text : String) : Prop :=
  text ≠ "" ∧ ∀ character ∈ text.toList, isBlank character = false

theorem word_of_mem_words {line word : String} (member : word ∈ words line) : Word word :=
  ⟨(mem_runs member).1, fun character inside => ((mem_runs member).2 character inside).2⟩

theorem words_word {word : String} (isWord : Word word) : words word = [word] :=
  runs_filled isWord.1 isWord.2

theorem words_pair {first second : String} (one : Word first) (two : Word second) :
    words (first ++ " " ++ second) = [first, second] := by
  have parted : (first ++ " " ++ second).toList = first.toList ++ ' ' :: second.toList := by
    simp
  have cut : words (first ++ " " ++ second) = words first ++ words second :=
    runs_of_gap (by decide) parted
  rw [cut, words_word one, words_word two]
  rfl

end TreeShell.Text
