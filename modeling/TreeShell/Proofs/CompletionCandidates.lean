import TreeShell.Proofs.Resolution
import TreeShell.Proofs.Utf8Encoding
import TreeShell.Shell.Completion

/-! What completion offers, and what resolution makes of it. Completion takes the
argument apart, finds a folder and puts a candidate together; submitting the candidate
takes it apart again. The two meet on one node exactly where the typed parent leads
down to the folder that was searched. -/

namespace TreeShell

namespace Completion
open TreeShell.Path

/-- Text behind the parent that was typed before it, if there was one. -/
def behind (parent : Option String) (text : String) : String :=
  match parent with
  | some parent => join parent text
  | none => text

/-- A line asks for a completion: its second word, but for one closing separator, is
`term` behind `parent`, and `term` goes back to the last separator. -/
structure Asks (line command : String) (parent : Option String) (term : String) : Prop where
  words : ∃ argument rest, Text.words line = command :: argument :: rest ∧
    strip argument = behind parent term
  single : separator ∉ term.toList

/-- The candidates that an outcome holds, behind the command that they complete. -/
inductive Offers (command : String) : Completion → List String → Prop where
  | noMatches (term : String) : Offers command (.noMatches term) []
  | replace (candidate : String) : Offers command (.replace (command ++ " " ++ candidate)) [candidate]
  | ambiguous (candidates : List String) (several : 2 ≤ candidates.length) :
    Offers command (.ambiguous candidates) candidates

theorem split_behind {parent : Option String} {term : String} (single : separator ∉ term.toList) :
    split (behind parent term) = (parent, term) := by
  cases parent with
  | none => simp [split, behind, splitLast_eq_none_iff.mpr single]
  | some parent => simp [split, behind, splitLast_parted _ single]

variable {folder child : Node} {parent : Option String} {term : String}

theorem candidate_eq (parent : Option String) (child : Node) :
    candidate parent child = behind parent (display child) := by
  cases parent <;> rfl

theorem behind_append (parent : Option String) (first second : String) :
    behind parent (first ++ second) = behind parent first ++ second := by
  cases parent with
  | none => rfl
  | some before => exact (String.append_assoc ..).symm

theorem exists_display (child : Node) :
    ∃ closing, Text.Unbroken closing ∧ display child = child.name ++ closing := by
  unfold display
  split
  · exact ⟨"/", Text.unbroken_of_all (by decide), rfl⟩
  · exact ⟨"", Text.unbroken_of_all (by decide), String.append_empty.symm⟩

theorem strip_behind {name : String} (isName : IsName name) :
    strip (behind parent name) = behind parent name := by
  refine strip_open fun closed => isName.single ?_
  have named : name.toList ≠ [] := by simpa using isName.filled
  have last : (behind parent name).toList.getLast? = name.toList.getLast? := by
    cases parent with
    | none => rfl
    | some parent =>
      rw [behind, toList_join, List.getLast?_append, List.getLast?_cons]
      cases seen : name.toList with
      | nil => exact absurd seen named
      | cons first rest => simp [List.getLast?_cons]
  exact List.mem_of_getLast? (last ▸ closed)

theorem strip_candidate (isName : IsName child.name) :
    strip (candidate parent child) = behind parent child.name := by
  have filled : behind parent child.name ≠ "" := by
    cases parent with
    | none => exact isName.filled
    | some parent => simp [behind, join]
  rw [candidate_eq, display]
  split
  · rw [behind_append, strip_closed filled]
  · exact strip_behind isName

theorem segments_candidate (isName : IsName child.name) :
    segments (candidate parent child) = segments (parent.getD "") ++ [child.name] := by
  rw [← segments_strip, strip_candidate isName]
  cases parent with
  | none => simp [behind, segments_name isName]
  | some parent => simp [behind, segments_join, segments_name isName]

/-- A candidate is no alias, unless it is a bare `..` or the root's name, or the root's
name behind nothing. -/
theorem isRelative_candidate (isName : IsName child.name)
    (bare : parent = none → child.name ≠ ".." ∧ child.name ≠ rootName)
    (behindRoot : parent = some "" → child.name ≠ rootName) :
    IsRelative (candidate parent child) := by
  have parted : segments (candidate parent child) ≠ [] := by simp [segments_candidate isName]
  have stripped : strip (candidate parent child) = behind parent child.name :=
    strip_candidate isName
  have divided (before : String) : separator ∈ (behind (some before) child.name).toList := by
    simp [behind]
  constructor
  · intro empty
    exact parted (empty ▸ segments_empty)
  · intro lone
    rw [lone] at parted
    exact parted (by decide)
  all_goals
    rw [stripped]
    intro same
  · cases parent with
    | none => exact (bare rfl).1 same
    | some before =>
      have inside := divided before
      rw [same] at inside
      exact absurd inside (by decide)
  · cases parent with
    | none =>
      have named : child.name = root := same
      exact isName.single (named ▸ by decide)
    | some before =>
      have whole : join before child.name = join "" rootName := same.trans (by decide)
      have parts := splitLast_parted before.toList isName.single
      rw [← toList_join, whole, toList_join, splitLast_parted _ isName_rootName.single] at parts
      obtain ⟨empty, named⟩ := Prod.mk.inj (Option.some.inj parts)
      exact behindRoot (congrArg some (String.toList_inj.mp empty.symm))
        (String.toList_inj.mp named.symm)
  · cases parent with
    | none => exact (bare rfl).2 same
    | some before =>
      have inside := divided before
      rw [same] at inside
      exact absurd inside (by decide)

theorem candidate_injective {other : Node} (isName : IsName child.name)
    (otherIsName : IsName other.name) (same : candidate parent child = candidate parent other) :
    child.name = other.name := by
  have parts := congrArg segments same
  rw [segments_candidate isName, segments_candidate otherIsName] at parts
  exact List.singleton_inj.mp (List.append_cancel_left parts)

theorem request?_eq_some_iff {line command argument : String} :
    request? line = some (command, argument) ↔
      ∃ rest, Text.words line = command :: argument :: rest := by
  unfold request?
  split
  · rename_i first second rest words
    simp [words]
  · rename_i short
    refine ⟨nofun, fun ⟨rest, words⟩ => absurd words (short command argument rest)⟩

theorem request?_eq_none_iff {line : String} :
    request? line = none ↔ (Text.words line).length < 2 := by
  unfold request?
  split
  · rename_i words
    simp [words]
  · rename_i short
    refine iff_of_true rfl (Nat.lt_of_not_le fun long => ?_)
    match words : Text.words line, long with
    | command :: argument :: rest, _ => exact short command argument rest words

theorem exists_request {line : String} (many : 2 ≤ (Text.words line).length) :
    ∃ command argument, request? line = some (command, argument) := by
  cases requested : request? line with
  | none => exact absurd (request?_eq_none_iff.mp requested) (Nat.not_lt.mpr many)
  | some request => exact ⟨request.1, request.2, rfl⟩

theorem asks_of_words {line command argument : String} {rest : List String}
    (words : Text.words line = command :: argument :: rest) :
    ∃ parent term, Asks line command parent term := by
  cases parted : splitLast (strip argument).toList with
  | none =>
    exact ⟨none, strip argument, ⟨argument, rest, words, rfl⟩, splitLast_eq_none_iff.mp parted⟩
  | some parts =>
    obtain ⟨whole, single⟩ := parted_of_splitLast parted
    refine ⟨some (String.ofList parts.1), String.ofList parts.2, ⟨argument, rest, words, ?_⟩, ?_⟩
    · exact String.toList_inj.mp (by simpa [behind] using whole)
    · simpa using single

/-- What a line asks to complete was cut from it at blanks, so no part of it has one. -/
theorem Asks.unbroken {line command : String} (asks : Asks line command parent term) :
    Text.Word command ∧ (∀ before ∈ parent, Text.Unbroken before) ∧ Text.Unbroken term := by
  obtain ⟨argument, rest, words, stripped⟩ := asks.words
  have member {word : String} (inside : word ∈ command :: argument :: rest) : Text.Word word :=
    Text.word_of_mem_words (words ▸ inside)
  have typed : Text.Unbroken (behind parent term) := by
    intro character inside
    exact (member (by simp : argument ∈ _)).2 character (mem_strip (stripped ▸ inside))
  refine ⟨member List.mem_cons_self, ?_, ?_⟩
  · rintro before rfl character inside
    exact typed character (by simp [behind, inside])
  · intro character inside
    refine typed character ?_
    cases parent with
    | none => exact inside
    | some before => simp [behind, inside]

/-- What is put behind a typed parent is a word again, as long as it is one itself: the parent
was part of a word. -/
theorem word_behind {text : String} (typed : ∀ before ∈ parent, Text.Unbroken before)
    (word : Text.Word text) : Text.Word (behind parent text) := by
  cases parent with
  | none => exact word
  | some before =>
    refine ⟨by simp [behind, join], fun character inside => ?_⟩
    rw [behind, toList_join, List.mem_append, List.mem_cons] at inside
    rcases inside with earlier | rfl | later
    · exact typed before rfl character earlier
    · decide
    · exact word.2 character later

theorem Asks.words_candidate {line command : String} (asks : Asks line command parent term)
    (isName : IsName child.name)
    (plain : ∀ character ∈ child.name.toList, Text.isBlank character = false) :
    Text.words (command ++ " " ++ candidate parent child) = [command, candidate parent child] := by
  obtain ⟨commanded, typed, _⟩ := asks.unbroken
  obtain ⟨closing, closed, shown⟩ := exists_display child
  have filled : display child ≠ "" := by simp [shown, isName.filled]
  have word : Text.Word (display child) := by
    refine ⟨filled, fun character inside => ?_⟩
    rw [shown, String.toList_append, List.mem_append] at inside
    exact inside.elim (plain character) (closed character)
  rw [candidate_eq]
  exact Text.words_pair commanded (word_behind typed word)

theorem mem_candidates_iff (consistent : folder.Consistent) :
    child ∈ candidates folder term ↔
      (child.name, child) ∈ folder.children ∧ term.toList <+: child.name.toList := by
  have keyed : (∃ key, (key, child) ∈ folder.children) ↔ (child.name, child) ∈ folder.children := by
    refine ⟨fun ⟨key, member⟩ => ?_, fun member => ⟨_, member⟩⟩
    rw [(consistent.child member).2.1]
    exact member
  simp [candidates, keyed]

theorem candidates_ascend (ordered : folder.Ordered) (consistent : folder.Consistent) :
    (candidates folder term).Pairwise fun first second =>
      Text.Utf8.encode first.name < Text.Utf8.encode second.name := by
  cases folder with
  | file => exact List.Pairwise.nil
  | folder name path children =>
    have ascending := (Node.ordered_folder_iff.mp ordered).1
    rw [Children.Ascending, List.pairwise_map] at ascending
    refine List.Pairwise.filter _ (List.pairwise_map.mpr (ascending.imp_of_mem ?_))
    rintro ⟨key, node⟩ ⟨key', node'⟩ member member' less
    have named : node.name = key := (consistent.child member).2.1
    have named' : node'.name = key' := (consistent.child member').2.1
    simp only [named, named']
    exact Text.Utf8.encode_lt_encode less

end Completion
end TreeShell
