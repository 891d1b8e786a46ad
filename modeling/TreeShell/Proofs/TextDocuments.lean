import TreeShell.Settings.Layer
import TreeShell.Toml.Writer

/-! Documents with one text. Whatever a text holds, a basic string spells it, and a document with that
string under a name in a section is read as the layer with the text there. -/

namespace TreeShell.Toml

section Steps

variable {lines : Bool} {stage next : Stage} {character made : Char} {rest : List Char}

private theorem withQuotes_zero (read : Option (List Char × List Char)) : withQuotes 0 read = read := by
  cases read <;> rfl

/-- A character that does not end a string leads on, whether it is one of the text's or not. -/
private theorem readBasic_cons (inside : stage.quoteCount = 0)
    (continues : (character == '"' && stage.endsText) = false) :
    readBasic lines stage (character :: rest) =
      (stepBasic lines stage character).bind fun (made?, next) =>
        match made? with
        | none => readBasic lines next rest
        | some made => withFirst made (readBasic lines next rest) := by
  rw [readBasic]
  simp only [continues, inside, withQuotes_zero]
  cases stepBasic lines stage character with
  | none => rfl
  | some step =>
    obtain ⟨made?, next⟩ := step
    cases made? <;> rfl

private theorem readBasic_of_silent (inside : stage.quoteCount = 0)
    (continues : (character == '"' && stage.endsText) = false)
    (silent : stepBasic lines stage character = some (none, next)) :
    readBasic lines stage (character :: rest) = readBasic lines next rest := by
  rw [readBasic_cons inside continues, silent, Option.bind_some]

private theorem readBasic_of_made (inside : stage.quoteCount = 0)
    (continues : (character == '"' && stage.endsText) = false)
    (makes : stepBasic lines stage character = some (some made, next)) :
    readBasic lines stage (character :: rest) = withFirst made (readBasic lines next rest) := by
  rw [readBasic_cons inside continues, makes, Option.bind_some]

private theorem readBasic_backslash : readBasic lines .text ('\\' :: rest) = readBasic lines .escape rest :=
  readBasic_of_silent rfl rfl rfl

theorem readBasic_shortEscape (short : stepBasic lines .escape character = some (some made, .text)) :
    readBasic lines .text ('\\' :: character :: rest) =
      withFirst made (readBasic lines .text rest) := by
  rw [readBasic_backslash, readBasic_of_made rfl (Bool.and_false _) short]

end Steps

private theorem hexDigit?_toUpper_hexDigit {digit : Nat} (small : digit < 16) :
    Digits.hexDigit? (Text.hexDigit digit).toUpper = some digit := by
  revert digit
  decide

private theorem scalar?_toNat (character : Char) : scalar? character.toNat = some character := by
  have code : character.toNat < 0xD800 ∨ (0xDFFF < character.toNat ∧ character.toNat < 0x110000) :=
    character.valid
  have valid : (character.toNat < 0xD800 ||
      (0xE000 ≤ character.toNat && character.toNat < 0x110000)) = true := by
    simp
    omega
  rw [scalar?, if_pos valid, Char.ofNat_toNat]

private theorem readBasic_code {character : Char} (small : character.toNat < 0x80) (lines : Bool) (rest : List Char) :
    readBasic lines .text ('\\' :: 'u' :: '0' :: '0' :: (Text.hexDigit (character.toNat / 16)).toUpper ::
      (Text.hexDigit (character.toNat % 16)).toUpper :: rest) =
        withFirst character (readBasic lines .text rest) := by
  have high := hexDigit?_toUpper_hexDigit (show character.toNat / 16 < 16 by omega)
  have low := hexDigit?_toUpper_hexDigit (show character.toNat % 16 < 16 by omega)
  have whole : character.toNat / 16 * 16 + character.toNat % 16 = character.toNat := by omega
  have third : stepBasic lines (.code 2 0) (Text.hexDigit (character.toNat / 16)).toUpper =
      some (none, .code 1 (character.toNat / 16)) := by
    simp [stepBasic, afterCode, high]
  have fourth : stepBasic lines (.code 1 (character.toNat / 16))
      (Text.hexDigit (character.toNat % 16)).toUpper = some (some character, .text) := by
    simp [stepBasic, afterCode, low, whole, scalar?_toNat]
  have inside (missing value : Nat) (digit : Char) :
      (digit == '"' && (Stage.code missing value).endsText) = false := Bool.and_false _
  calc readBasic lines .text ('\\' :: 'u' :: '0' :: '0' :: _)
    _ = readBasic lines (.code 4 0) ('0' :: '0' :: _) := by
      rw [readBasic_backslash, readBasic_of_silent rfl rfl rfl]
    _ = readBasic lines (.code 3 0) ('0' :: _) := readBasic_of_silent rfl (inside 4 0 _) rfl
    _ = readBasic lines (.code 2 0) (_ :: _) := readBasic_of_silent rfl (inside 3 0 _) rfl
    _ = readBasic lines (.code 1 (character.toNat / 16)) (_ :: rest) :=
      readBasic_of_silent rfl (inside 2 0 _) third
    _ = withFirst character (readBasic lines .text rest) :=
      readBasic_of_made rfl (inside 1 _ _) fourth

private theorem readBasic_escapeCharacter {character : Char} (notQuote : character ≠ '"') (rest : List Char) :
    readBasic false .text (escapeCharacter false character ++ rest) =
      withFirst character (readBasic false .text rest) := by
  unfold escapeCharacter
  split
  · exact readBasic_shortEscape rfl
  · exact readBasic_shortEscape rfl
  · exact readBasic_shortEscape rfl
  · exact readBasic_shortEscape rfl
  · exact readBasic_shortEscape rfl
  · exact readBasic_shortEscape rfl
  · rename_i notBackspace notTab notLine notFeed notReturn notBackslash
    split
    · rename_i control
      refine readBasic_code ?_ false rest
      simp at control
      omega
    · rename_i shown
      have plain : isPlain character = true := by
        simp [isPlain] at shown ⊢
        omega
      have makes : stepBasic false .text character = some (some character, .text) := by
        simp only [stepBasic]
        unfold afterText
        split <;> simp_all
      exact readBasic_of_made rfl (by simp [notQuote]) makes

theorem readBasic_escapeText (text rest : List Char) (quotes : Nat) :
    readBasic false .text (escapeText false quotes text ++ '"' :: rest) = some (text, rest) := by
  induction text generalizing quotes with
  | nil => rfl
  | cons character text ih =>
    have first (read : Option (List Char × List Char)) (reads : read = some (text, rest)) :
        withFirst character read = some (character :: text, rest) := by
      rw [reads]
      rfl
    by_cases quote : character = '"'
    · subst quote
      exact (readBasic_shortEscape rfl).trans (first _ (ih 0))
    · simp only [escapeText, bne_iff_ne, ne_eq, quote, not_false_eq_true, if_true, List.append_assoc]
      exact (readBasic_escapeCharacter quote _).trans (first _ (ih 0))

private theorem escapeText_starts {text : List Char} (filled : text ≠ []) :
    ∃ first rest, escapeText false 0 text = first :: rest ∧ first ≠ '"' := by
  cases text with
  | nil => exact absurd rfl filled
  | cons character text =>
    by_cases quote : character = '"'
    · subst quote
      exact ⟨'\\', _, rfl, by decide⟩
    · have starts : ∃ first rest, escapeCharacter false character = first :: rest ∧ first ≠ '"' := by
        unfold escapeCharacter
        split <;> try exact ⟨'\\', _, rfl, by decide⟩
        split
        · exact ⟨'\\', _, rfl, by decide⟩
        · exact ⟨character, _, rfl, quote⟩
      obtain ⟨first, rest, escaped, differ⟩ := starts
      refine ⟨first, rest ++ escapeText false 0 text, ?_, differ⟩
      simp only [escapeText, bne_iff_ne, ne_eq, quote, not_false_eq_true, if_true, escaped,
        List.cons_append]

theorem readString_basic (text rest : List Char) (line : rest.head? ≠ some '"') :
    readString (Quoting.basic.write text ++ rest) = some (text, rest) := by
  have written : Quoting.basic.write text ++ rest =
      '"' :: (escapeText false 0 text ++ '"' :: rest) := by
    simp [Quoting.write, Quoting.mark, Quoting.isLines]
  have single : readString ('"' :: (escapeText false 0 text ++ '"' :: rest)) =
      readBasic false .text (escapeText false 0 text ++ '"' :: rest) := by
    cases text with
    | nil =>
      cases rest with
      | nil => rfl
      | cons first rest =>
        have differ : first ≠ '"' := by simpa using line
        simp only [escapeText, List.nil_append]
        unfold readString
        split <;> simp_all
    | cons character text =>
      obtain ⟨first, others, starts, differ⟩ := escapeText_starts (List.cons_ne_nil character text)
      rw [starts]
      unfold readString
      split <;> simp_all
  rw [written, single, readBasic_escapeText]

section Names

variable {name rest : List Char}

private theorem isBare_ne {character other : Char} (bare : isBare character = true)
    (odd : isBare other = false) : character ≠ other := by
  rintro rfl
  rw [bare] at odd
  cases odd

private theorem skipBlanks_of_bare (bare : name.all isBare = true) (filled : name ≠ []) :
    skipBlanks (name ++ rest) = name ++ rest := by
  cases name with
  | nil => exact absurd rfl filled
  | cons first others =>
    have firstBare : isBare first = true := List.all_eq_true.mp bare first List.mem_cons_self
    have notSpace : first ≠ ' ' := isBare_ne firstBare rfl
    have notTab : first ≠ '\t' := isBare_ne firstBare rfl
    have notBlank : (first == ' ' || first == '\t') = false := by
      simp [notSpace, notTab]
    rw [skipBlanks, List.cons_append, List.dropWhile_cons, notBlank]
    rfl

theorem readKey_of_bare (bare : name.all isBare = true) (filled : name ≠ []) {first next : Char}
    {behind : List Char} (stops : isBare first = false) (skips : skipBlanks (first :: rest) = next :: behind)
    (notPoint : next ≠ '.') (limit : Nat) :
    readKey (limit + 1) (name ++ first :: rest) = some ([String.ofList name], next :: behind) := by
  have all : ∀ character ∈ name, isBare character = true := List.all_eq_true.mp bare
  have taken : (name ++ first :: rest).takeWhile isBare = name := by
    rw [List.takeWhile_append_of_pos all, List.takeWhile_cons, stops]
    simp
  have dropped : (name ++ first :: rest).dropWhile isBare = first :: rest := by
    rw [List.dropWhile_append_of_pos all, List.dropWhile_cons, stops]
    simp
  have part : readKeyPart (name ++ first :: rest) = some (String.ofList name, first :: rest) := by
    rw [readKeyPart, taken, dropped]
    cases name with
    | nil => exact absurd rfl filled
    | cons => rfl
  simp only [readKey, skipBlanks_of_bare bare filled, part, skips]
  split
  · rename_i point
    exact absurd (List.cons_eq_cons.mp point).1 notPoint
  · rfl

private theorem skipLines_of_bare (bare : name.all isBare = true) (filled : name ≠ []) :
    skipLines false (name ++ rest) = name ++ rest := by
  cases name with
  | nil => exact absurd rfl filled
  | cons first others =>
    have firstBare : isBare first = true := List.all_eq_true.mp bare first List.mem_cons_self
    have notLine : first ≠ '\n' := isBare_ne firstBare rfl
    have notReturn : first ≠ '\r' := isBare_ne firstBare rfl
    have notSpace : first ≠ ' ' := isBare_ne firstBare rfl
    have notTab : first ≠ '\t' := isBare_ne firstBare rfl
    have notMark : first ≠ '#' := isBare_ne firstBare rfl
    rw [List.cons_append]
    unfold skipLines
    split <;> simp_all

end Names

section Lines

variable {header name text rest : List Char}

private theorem readHeader_of_bare (bare : header.all isBare = true) (filled : header ≠ []) :
    readHeader openTable? [']'] ⟨[], []⟩ (header ++ ']' :: '\n' :: rest) =
      some (⟨[(String.ofList header, .table .header [])], [String.ofList header]⟩, rest) := by
  have key : readKey keyLimit (header ++ ']' :: '\n' :: rest) =
      some ([String.ofList header], ']' :: '\n' :: rest) := readKey_of_bare bare filled rfl rfl (by decide) 78
  simp only [readHeader, key, Option.bind_eq_bind, Option.bind_some]
  rfl

private theorem readLine_of_text (bare : name.all isBare = true) (filled : name ≠ []) :
    readLine ⟨[(String.ofList header, .table .header [])], [String.ofList header]⟩
        (name ++ " = ".toList ++ Quoting.basic.write text ++ '\n' :: rest) =
      some (⟨[(String.ofList header, .table .header [(String.ofList name, .string (String.ofList text))])],
        [String.ofList header]⟩, rest) := by
  have key : readKey keyLimit (name ++ ' ' :: '=' :: ' ' :: (Quoting.basic.write text ++ '\n' :: rest)) =
      some ([String.ofList name], '=' :: ' ' :: (Quoting.basic.write text ++ '\n' :: rest)) :=
    readKey_of_bare bare filled rfl rfl (by decide) 78
  have string := readString_basic text ('\n' :: rest) (by simp)
  have value : readValue nestingLimit (Quoting.basic.write text ++ '\n' :: rest) =
      some (.string (String.ofList text), '\n' :: rest) := by
    have starts : ∃ inner, Quoting.basic.write text ++ '\n' :: rest = '"' :: inner := ⟨_, rfl⟩
    obtain ⟨inner, starts⟩ := starts
    rw [starts] at string ⊢
    have scalar : readValue nestingLimit ('"' :: inner) = readScalar ('"' :: inner) := rfl
    rw [scalar]
    simp only [readScalar, string, Option.map_some]
  have blank : skipBlanks (' ' :: (Quoting.basic.write text ++ '\n' :: rest)) =
      Quoting.basic.write text ++ '\n' :: rest := rfl
  have ended : endLine ('\n' :: rest) = some rest := rfl
  have put : changeAt? (putDotted? (String.ofList name) (.string (String.ofList text)) [])
      [String.ofList header] [(String.ofList header, .table .header [])] =
        some [(String.ofList header,
          .table .header [(String.ofList name, .string (String.ofList text))])] := by
    simp [changeAt?, putDotted?, putNew?, Toml.put]
  have spelled : name ++ " = ".toList ++ Quoting.basic.write text ++ '\n' :: rest =
      name ++ ' ' :: '=' :: ' ' :: (Quoting.basic.write text ++ '\n' :: rest) := by simp
  have expected : expect '=' ('=' :: ' ' :: (Quoting.basic.write text ++ '\n' :: rest)) =
      some (' ' :: (Quoting.basic.write text ++ '\n' :: rest)) := rfl
  rw [readLine, spelled]
  simp only [key, expected, blank, value, ended, put, Option.bind_eq_bind, Option.bind_some,
    List.getLast?_singleton, List.dropLast_singleton, Option.pure_def]

variable {draft next : Draft} {behind : List Char}

private theorem readLines_header (bare : header.all isBare = true) (filled : header ≠ []) (limit : Nat)
    (reads : readHeader openTable? [']'] draft (header ++ rest) = some (next, behind)) :
    readLines (limit + 1) draft ('[' :: (header ++ rest)) = readLines limit next behind := by
  cases header with
  | nil => exact absurd rfl filled
  | cons first others =>
    have firstBare : isBare first = true := List.all_eq_true.mp bare first List.mem_cons_self
    have notBracket : first ≠ '[' := isBare_ne firstBare rfl
    have shown : skipLines false ('[' :: (first :: others ++ rest)) = '[' :: (first :: others ++ rest) := rfl
    rw [readLines, shown]
    split <;> simp_all

private theorem readLines_line (bare : name.all isBare = true) (filled : name ≠ []) (limit : Nat)
    (reads : readLine draft (name ++ rest) = some (next, behind)) :
    readLines (limit + 1) draft (name ++ rest) = readLines limit next behind := by
  have shown := @skipLines_of_bare name rest bare filled
  cases name with
  | nil => exact absurd rfl filled
  | cons first others =>
    have firstBare : isBare first = true := List.all_eq_true.mp bare first List.mem_cons_self
    have notBracket : first ≠ '[' := isBare_ne firstBare rfl
    rw [readLines, shown]
    split <;> simp_all

end Lines

def textDocument (header name text : List Char) : List Char :=
  '[' :: header ++ "]\n".toList ++ (name ++ " = ".toList ++ Quoting.basic.write text ++ ['\n'])

theorem ofDocument?_textDocument {header name : List Char} (headerBare : header.all isBare = true)
    (headerFilled : header ≠ []) (bare : name.all isBare = true) (filled : name ≠ []) (text : List Char) :
    ofDocument? (String.ofList (textDocument header name text)) =
      some [(String.ofList header,
        .table .header [(String.ofList name, .string (String.ofList text))])] := by
  obtain ⟨line, isLine⟩ : ∃ line, line = " = ".toList ++ Quoting.basic.write text ++ ['\n'] :=
    ⟨_, rfl⟩
  have shape : textDocument header name text = '[' :: (header ++ ']' :: '\n' :: (name ++ line)) := by
    simp [textDocument, isLine]
  have reads : readLine ⟨[(String.ofList header, .table .header [])], [String.ofList header]⟩
      (name ++ line) = some (⟨[(String.ofList header,
        .table .header [(String.ofList name, .string (String.ofList text))])],
          [String.ofList header]⟩, []) := by
    rw [← readLine_of_text bare filled, isLine]
    simp
  obtain ⟨more, enough⟩ : ∃ more, (textDocument header name text).length + 1 = more + 3 := by
    refine ⟨(textDocument header name text).length - 2, ?_⟩
    have two : 2 ≤ (textDocument header name text).length := by
      simp only [shape, List.length_cons, List.length_append]
      omega
    omega
  calc ofDocument? (String.ofList (textDocument header name text))
    _ = readLines (more + 3) ⟨[], []⟩ (textDocument header name text) := by
      rw [ofDocument?, String.toList_ofList, ← enough, shape]
      rfl
    _ = readLines (more + 2) ⟨[(String.ofList header, .table .header [])], [String.ofList header]⟩
        (name ++ line) := by
      rw [shape]
      exact readLines_header headerBare headerFilled (more + 2) (readHeader_of_bare headerBare headerFilled)
    _ = readLines (more + 1) ⟨[(String.ofList header,
        .table .header [(String.ofList name, .string (String.ofList text))])], [String.ofList header]⟩ [] :=
      readLines_line bare filled (more + 1) reads
    _ = _ := rfl

end TreeShell.Toml
