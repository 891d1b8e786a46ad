import TreeShell.Proofs.MarkupOutput

/-! Escaped text read back. The five entities, taken from the left in one pass, give back the
text that was escaped, whatever entities that text holds itself. -/

namespace TreeShell.Text

/-- Text with its entities read from the left in one pass. An ampersand that begins none of them
stands for itself. -/
def decoded : List Char → List Char
  | '&' :: 'a' :: 'm' :: 'p' :: ';' :: rest => '&' :: decoded rest
  | '&' :: 'l' :: 't' :: ';' :: rest => '<' :: decoded rest
  | '&' :: 'g' :: 't' :: ';' :: rest => '>' :: decoded rest
  | '&' :: 'q' :: 'u' :: 'o' :: 't' :: ';' :: rest => '"' :: decoded rest
  | '&' :: '#' :: '3' :: '9' :: ';' :: rest => '\'' :: decoded rest
  | character :: rest => character :: decoded rest
  | [] => []

/-- The text that markup shows. -/
def decodeMarkup (markup : String) : String :=
  String.ofList (decoded markup.toList)

private theorem decoded_cons {character : Char} (plain : character ≠ '&') (rest : List Char) :
    decoded (character :: rest) = character :: decoded rest := by
  rw [decoded.eq_def]
  split <;> simp_all

private theorem decoded_entity (character : Char) (rest : List Char) :
    decoded (entity character ++ rest) = character :: decoded rest := by
  unfold entity
  split
  case h_6 notAmp _ _ _ _ => exact decoded_cons notAmp rest
  all_goals rfl

private theorem decoded_flatMap_entity (text : List Char) : decoded (text.flatMap entity) = text := by
  induction text with
  | nil => rfl
  | cons character rest ih => rw [List.flatMap_cons, decoded_entity, ih]

theorem decodeMarkup_escapeMarkup (text : String) : decodeMarkup (escapeMarkup text) = text := by
  rw [decodeMarkup, escapeMarkup, String.toList_ofList, decoded_flatMap_entity, String.ofList_toList]

theorem escapeMarkup_append (first second : String) :
    escapeMarkup (first ++ second) = escapeMarkup first ++ escapeMarkup second := by
  simp [escapeMarkup]

private theorem entity_of_plain {character : Char} (notAmp : character ≠ '&')
    (notTag : isTag character = false) : entity character = [character] := by
  unfold entity
  split
  case h_6 => rfl
  all_goals simp_all [isTag]

theorem Framed.of_suffix {before after : List Char} (clean : Framed [] (String.ofList before))
    (behind : after <:+ before) : Framed [] (String.ofList after) := by
  constructor
  · have untagged := clean.skeleton_eq
    simp only [skeleton, String.toList_ofList, List.filter_eq_nil_iff] at untagged ⊢
    exact fun character member => untagged character (behind.subset member)
  · intro rest tail
    rw [String.toList_ofList] at tail
    apply clean.entitiesOnly
    rw [String.toList_ofList]
    exact tail.trans behind

private theorem flatMap_entity_decoded {markup : List Char} (clean : Framed [] (String.ofList markup)) :
    (decoded markup).flatMap entity = markup := by
  fun_induction decoded markup with
  | case7 => rfl
  | case6 character rest notAmp notLt notGt notQuot notApos ih =>
    have later := ih (clean.of_suffix (List.suffix_cons _ _))
    have notTag : isTag character = false := by
      have untagged := clean.skeleton_eq
      simp only [skeleton, String.toList_ofList, List.filter_eq_nil_iff] at untagged
      simpa using untagged character List.mem_cons_self
    by_cases amp : character = '&'
    · -- An ampersand of clean markup begins an entity, and those are the cases before this one.
      subst amp
      obtain ⟨listed, member, front, parted⟩ := clean.entitiesOnly rest (by simp)
      simp only [entities, List.mem_cons, List.not_mem_nil, or_false] at member
      rcases member with rfl | rfl | rfl | rfl | rfl
      · exact absurd (List.cons.inj parted).2.symm (notAmp _ rfl)
      · exact absurd (List.cons.inj parted).2.symm (notLt _ rfl)
      · exact absurd (List.cons.inj parted).2.symm (notGt _ rfl)
      · exact absurd (List.cons.inj parted).2.symm (notQuot _ rfl)
      · exact absurd (List.cons.inj parted).2.symm (notApos _ rfl)
    · rw [List.flatMap_cons, entity_of_plain amp notTag, later]
      rfl
  | case1 rest ih | case2 rest ih | case3 rest ih | case4 rest ih | case5 rest ih =>
    rw [List.flatMap_cons, ih (clean.of_suffix (by simp [List.suffix_cons_iff]))]
    rfl

/-- The texts that escaping writes are those whose skeleton is empty and whose ampersands all
begin entities. -/
theorem exists_escapeMarkup_iff {markup : String} :
    (∃ text, escapeMarkup text = markup) ↔ skeleton markup = [] ∧ EntitiesOnly markup := by
  constructor
  · rintro ⟨text, rfl⟩
    have framed := framed_escapeMarkup text
    exact ⟨framed.skeleton_eq, framed.entitiesOnly⟩
  · rintro ⟨untagged, referring⟩
    have clean : Framed [] (String.ofList markup.toList) := by
      rw [String.ofList_toList]
      exact ⟨untagged, referring⟩
    refine ⟨decodeMarkup markup, ?_⟩
    rw [escapeMarkup, decodeMarkup, String.toList_ofList, flatMap_entity_decoded clean,
      String.ofList_toList]

/-- Escaping goes character by character, reading the entities back undoes it, so no two texts are
written alike, and what is written are just the texts without tag characters in which every
ampersand begins an entity. -/
theorem escaped_text_decodes :
    (∀ first second, escapeMarkup (first ++ second) = escapeMarkup first ++ escapeMarkup second) ∧
    (∀ text, decodeMarkup (escapeMarkup text) = text) ∧
    (∀ first second, escapeMarkup first = escapeMarkup second ↔ first = second) ∧
    ∀ markup, (∃ text, escapeMarkup text = markup) ↔
      (∀ tag ∈ ['<', '>', '"', '\''], tag ∉ markup.toList) ∧ EntitiesOnly markup := by
  have inverse : Function.LeftInverse decodeMarkup escapeMarkup := decodeMarkup_escapeMarkup
  refine ⟨escapeMarkup_append, inverse, fun first second => inverse.injective.eq_iff, fun markup => ?_⟩
  have untagged : skeleton markup = [] ↔ ∀ tag ∈ ['<', '>', '"', '\''], tag ∉ markup.toList := by
    simp only [skeleton, List.filter_eq_nil_iff, isTag]
    grind
  rw [exists_escapeMarkup_iff, untagged]

end TreeShell.Text
