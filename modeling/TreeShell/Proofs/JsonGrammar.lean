import TreeShell.Json.Token

/-! Which texts spell tokens. Blanks may stand on either side of every token, and a
character of a string is written as itself, by a short escape or by its codes. The lexer
takes each spelling from between two tokens to between two others, so it reads a text
part by part. Numbers are left out: a number alone has no end of its own. -/

namespace TreeShell.Json

/-- The letters of short escapes and what each stands for. -/
def shortEscapes : List (Char × Char) :=
  [('"', '"'), ('\\', '\\'), ('/', '/'), ('b', '\x08'), ('f', '\x0c'), ('n', '\n'), ('r', '\r'),
    ('t', '\t')]

/-- The digits of base sixteen with their values, of either case. -/
def hexDigits : List (Char × Nat) :=
  "0123456789".toList.zipIdx ++ "abcdef".toList.zipIdx 10 ++ "ABCDEF".toList.zipIdx 10

/-- The four digits of a code. -/
inductive HexCode : List Char → Nat → Prop where
  | digits {first second third fourth : Char} {a b c d : Nat}
      (one : (first, a) ∈ hexDigits) (two : (second, b) ∈ hexDigits)
      (three : (third, c) ∈ hexDigits) (four : (fourth, d) ∈ hexDigits) :
      HexCode [first, second, third, fourth] (((a * 16 + b) * 16 + c) * 16 + d)

/-- What may stand for one character inside of a string. A character that has no code of
four digits is written as the codes of its two surrogates. -/
inductive Spelling : List Char → Char → Prop where
  | plain {character : Char} (visible : ¬character.toNat < 0x20) (notQuote : character ≠ '"')
      (notBackslash : character ≠ '\\') : Spelling [character] character
  | short {letter character : Char} (escape : (letter, character) ∈ shortEscapes) :
      Spelling ['\\', letter] character
  | code {digits : List Char} {character : Char} (code : HexCode digits character.toNat) :
      Spelling ('\\' :: 'u' :: digits) character
  | pair {high low : List Char} {character : Char} (wide : 0x10000 ≤ character.toNat)
      (leading : HexCode high (0xD800 + (character.toNat - 0x10000) / 0x400))
      (trailing : HexCode low (0xDC00 + (character.toNat - 0x10000) % 0x400)) :
      Spelling ('\\' :: 'u' :: high ++ '\\' :: 'u' :: low) character

/-- What may stand between the quotes of a string. -/
inductive Quoting : List Char → List Char → Prop where
  | nil : Quoting [] []
  | cons {spelt text meaning : List Char} {character : Char} (first : Spelling spelt character)
      (rest : Quoting text meaning) : Quoting (spelt ++ text) (character :: meaning)

/-- What may stand for one token. -/
inductive Lexeme : List Char → Token → Prop where
  | openObject : Lexeme ['\x7b'] .openObject
  | closeObject : Lexeme ['\x7d'] .closeObject
  | openArray : Lexeme ['['] .openArray
  | closeArray : Lexeme [']'] .closeArray
  | comma : Lexeme [','] .comma
  | colon : Lexeme [':'] .colon
  | null : Lexeme "null".toList .null
  | true : Lexeme "true".toList (.bool true)
  | false : Lexeme "false".toList (.bool false)
  | string {inside meaning : List Char} (quoting : Quoting inside meaning) :
      Lexeme ('"' :: inside ++ ['"']) (.string (String.ofList meaning))

/-- What may stand for tokens in turn. -/
inductive Written : List Char → List Token → Prop where
  | nil : Written [] []
  | blank {character : Char} {text : List Char} {tokens : List Token}
      (isBlank : character ∈ [' ', '\t', '\n', '\r']) (rest : Written text tokens) :
      Written (character :: text) tokens
  | token {spelt text : List Char} {token : Token} {tokens : List Token}
      (first : Lexeme spelt token) (rest : Written text tokens) :
      Written (spelt ++ text) (token :: tokens)

namespace Written

theorem append {first second : List Char} {tokens later : List Token}
    (one : Written first tokens) (two : Written second later) :
    Written (first ++ second) (tokens ++ later) := by
  induction one with
  | nil => exact two
  | blank isBlank _ ih => exact ih.blank isBlank
  | token lexeme _ ih =>
    rw [List.append_assoc]
    exact ih.token lexeme

theorem single {text : List Char} {token : Token} (lexeme : Lexeme text token) :
    Written text [token] := by
  have one := Written.nil.token lexeme
  rwa [List.append_nil] at one

theorem mark {character : Char} {text : List Char} {token : Token} {tokens : List Token}
    (lexeme : Lexeme [character] token) (rest : Written text tokens) :
    Written (character :: text) (token :: tokens) :=
  rest.token lexeme

end Written

/-! ### The lexer on strings -/

private theorem hexDigit?_of_mem {character : Char} {value : Nat}
    (digit : (character, value) ∈ hexDigits) : Digits.hexDigit? character = some value := by
  have all : ∀ pair ∈ hexDigits, Digits.hexDigit? pair.1 = some pair.2 := by decide
  exact all _ digit

private theorem shortEscape?_of_mem {letter character : Char}
    (escape : (letter, character) ∈ shortEscapes) :
    letter ≠ 'u' ∧ Lexer.shortEscape? letter = some character := by
  have all : ∀ pair ∈ shortEscapes, pair.1 ≠ 'u' ∧ Lexer.shortEscape? pair.1 = some pair.2 := by
    decide
  exact all _ escape

theorem foldlM_step_code {digits : List Char} {value : Nat} (code : HexCode digits value)
    (text : List Char) (high : Option Nat) (before : List Token) :
    digits.foldlM Lexer.step ⟨.code text high 4 0, before⟩ =
      (Lexer.finishCode text high value).map fun mode => ⟨mode, before⟩ := by
  cases code with
  | digits one two three four =>
    simp [Lexer.step, hexDigit?_of_mem one, hexDigit?_of_mem two,
      hexDigit?_of_mem three, hexDigit?_of_mem four]

private theorem toNat_notSurrogate (character : Char) :
    character.toNat < 0xD800 ∨ 0xDFFF < character.toNat ∧ character.toNat < 0x110000 :=
  character.valid

private theorem finishCode_toNat (text : List Char) (character : Char) :
    Lexer.finishCode text none character.toNat = some (.string (character :: text)) := by
  have valid := toNat_notSurrogate character
  have notHigh : ¬(0xD800 ≤ character.toNat ∧ character.toNat < 0xDC00) := by omega
  have notLow : ¬(0xDC00 ≤ character.toNat ∧ character.toNat < 0xE000) := by omega
  simp [Lexer.finishCode, notHigh, notLow, Char.ofNat_toNat]

private theorem finishCode_leading (text : List Char) {value : Nat} (small : value < 0x400) :
    Lexer.finishCode text none (0xD800 + value) = some (.paired text (0xD800 + value)) := by
  have leading : 0xD800 + value < 0xDC00 := by omega
  simp [Lexer.finishCode, leading]

private theorem finishCode_trailing (text : List Char) {character : Char}
    (wide : 0x10000 ≤ character.toNat) :
    Lexer.finishCode text (some (0xD800 + (character.toNat - 0x10000) / 0x400))
        (0xDC00 + (character.toNat - 0x10000) % 0x400) = some (.string (character :: text)) := by
  have trailing : 0xDC00 + (character.toNat - 0x10000) % 0x400 < 0xE000 := by omega
  have whole : 0x10000 + (character.toNat - 0x10000) / 0x400 * 0x400 +
      (character.toNat - 0x10000) % 0x400 = character.toNat := by omega
  simp [Lexer.finishCode, trailing, whole]

/-- Inside of a string, the lexer reads each spelling of a character as that character. -/
private theorem foldlM_step_spelling {spelt : List Char} {character : Char}
    (spelling : Spelling spelt character) (text : List Char) (before : List Token) :
    spelt.foldlM Lexer.step ⟨.string text, before⟩ =
      some ⟨.string (character :: text), before⟩ := by
  have opened (after : List Char) : ('\\' :: 'u' :: after).foldlM Lexer.step ⟨.string text, before⟩ =
      after.foldlM Lexer.step ⟨.code text none 4 0, before⟩ := rfl
  cases spelling with
  | plain visible notQuote notBackslash => simp [Lexer.step, visible, notQuote, notBackslash]
  | short escape =>
    obtain ⟨notCode, meant⟩ := shortEscape?_of_mem escape
    simp [Lexer.step, notCode, meant]
  | code code => rw [opened, foldlM_step_code code, finishCode_toNat, Option.map_some]
  | @pair high low _ wide leading trailing =>
    have valid := toNat_notSurrogate character
    have reopened (value : Nat) (after : List Char) :
        ('\\' :: 'u' :: after).foldlM Lexer.step ⟨.paired text value, before⟩ =
          after.foldlM Lexer.step ⟨.code text (some value) 4 0, before⟩ := rfl
    rw [List.cons_append, List.cons_append, opened, List.foldlM_append, foldlM_step_code leading,
      finishCode_leading text (by omega), Option.map_some, Option.bind_eq_bind, Option.bind_some,
      reopened, foldlM_step_code trailing, finishCode_trailing text wide, Option.map_some]

private theorem foldlM_step_quoting {inside meaning : List Char} (quoting : Quoting inside meaning)
    (text : List Char) (before : List Token) :
    inside.foldlM Lexer.step ⟨.string text, before⟩ =
      some ⟨.string (meaning.reverse ++ text), before⟩ := by
  induction quoting generalizing text with
  | nil => rfl
  | @cons _ _ meaning character first _ ih =>
    rw [List.foldlM_append, foldlM_step_spelling first, Option.bind_eq_bind, Option.bind_some, ih,
      List.reverse_cons, List.append_assoc]
    rfl

/-! ### The lexer on texts -/

private theorem foldlM_step_lexeme {spelt : List Char} {token : Token} (lexeme : Lexeme spelt token)
    (before : List Token) :
    spelt.foldlM Lexer.step ⟨.between, before⟩ = some ⟨.between, token :: before⟩ := by
  cases lexeme with
  | string quoting =>
    have opened : Lexer.step ⟨.between, before⟩ '"' = some ⟨.string [], before⟩ := rfl
    rw [List.cons_append, List.foldlM_cons, opened, Option.bind_eq_bind, Option.bind_some,
      List.foldlM_append, foldlM_step_quoting quoting, Option.bind_eq_bind, Option.bind_some]
    simp [Lexer.step, Lexer.emit]
  | _ => rfl

private theorem step_blank {character : Char} (isBlank : character ∈ [' ', '\t', '\n', '\r'])
    (before : List Token) :
    Lexer.step ⟨.between, before⟩ character = some ⟨.between, before⟩ := by
  simp only [List.mem_cons, List.not_mem_nil, or_false] at isBlank
  rcases isBlank with rfl | rfl | rfl | rfl
  all_goals rfl

theorem foldlM_step_written {text : List Char} {tokens : List Token}
    (written : Written text tokens) (before : List Token) :
    text.foldlM Lexer.step ⟨.between, before⟩ = some ⟨.between, tokens.reverse ++ before⟩ := by
  induction written generalizing before with
  | nil => rfl
  | blank isBlank _ ih =>
    rw [List.foldlM_cons, step_blank isBlank, Option.bind_eq_bind, Option.bind_some, ih]
  | token lexeme _ ih =>
    rw [List.foldlM_append, foldlM_step_lexeme lexeme, Option.bind_eq_bind, Option.bind_some, ih,
      List.reverse_cons, List.append_assoc]
    rfl

theorem tokens?_of_written {text : List Char} {tokens : List Token}
    (written : Written text tokens) : tokens? text = some tokens := by
  simp [tokens?, Lexer.start, foldlM_step_written written, Lexer.finish]

end TreeShell.Json
