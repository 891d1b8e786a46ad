import TreeShell.Json.Value
import TreeShell.Proofs.JsonGrammar

/-! Written values as tokens. The printer's text of a value is one of those that spell the
value's tokens. -/

namespace TreeShell.Json

mutual
def tokens : Json → List Token
  | .null => [.null]
  | .bool value => [.bool value]
  | .number value => [.number value]
  | .string value => [.string value]
  | .array items => .openArray :: itemTokens items ++ [.closeArray]
  | .object members => .openObject :: memberTokens members ++ [.closeObject]

def itemTokens : List Json → List Token
  | [] => []
  | [item] => item.tokens
  | item :: rest => item.tokens ++ .comma :: itemTokens rest

def memberTokens : List (String × Json) → List Token
  | [] => []
  | [(name, value)] => .string name :: .colon :: value.tokens
  | (name, value) :: rest => .string name :: .colon :: value.tokens ++ .comma :: memberTokens rest
end

mutual
/-- No number stands in a value, at any depth. A number alone has no end of its own. -/
def Numberless : Json → Prop
  | .number _ => False
  | .array items => ItemsNumberless items
  | .object members => MembersNumberless members
  | _ => True

def ItemsNumberless : List Json → Prop
  | [] => True
  | item :: rest => item.Numberless ∧ ItemsNumberless rest

def MembersNumberless : List (String × Json) → Prop
  | [] => True
  | (_, value) :: rest => value.Numberless ∧ MembersNumberless rest
end

private theorem hexDigit_mem {value : Nat} (small : value < 16) :
    (Text.hexDigit value, value) ∈ hexDigits := by
  have all : ∀ value : Fin 16, (Text.hexDigit value, value.val) ∈ hexDigits := by decide
  exact all ⟨value, small⟩

private theorem spelling_escapeCharacter (character : Char) :
    Spelling (escapeCharacter character) character := by
  unfold escapeCharacter
  split
  case h_8 notQuote notBackslash _ _ _ _ _ =>
    split
    · rename_i control
      have zero : ('0', 0) ∈ hexDigits := by decide
      have high := hexDigit_mem (show character.toNat / 16 < 16 by omega)
      have low := hexDigit_mem (show character.toNat % 16 < 16 by omega)
      have code := HexCode.digits zero zero high low
      have whole : ((0 * 16 + 0) * 16 + character.toNat / 16) * 16 + character.toNat % 16 =
          character.toNat := by omega
      rw [whole] at code
      exact .code code
    · rename_i visible
      exact .plain visible notQuote notBackslash
  all_goals exact .short (by decide)

private theorem quoting_flatMap (characters : List Char) :
    Quoting (characters.flatMap escapeCharacter) characters := by
  induction characters with
  | nil => exact .nil
  | cons character rest ih => exact .cons (spelling_escapeCharacter character) ih

private theorem lexeme_stringText (text : String) : Lexeme (stringText text) (.string text) := by
  have lexeme := Lexeme.string (quoting_flatMap text.toList)
  rwa [String.ofList_toList] at lexeme

theorem written_newLine (level : Nat) : Written (newLine level) [] := by
  have blanks (count : Nat) : Written (List.replicate count ' ') [] := by
    induction count with
    | zero => exact .nil
    | succ count ih => exact .blank (by decide) ih
  exact .blank (by decide) (blanks (2 * level))

theorem Written.append_newLine {text : List Char} {tokens : List Token}
    (written : Written text tokens) (level : Nat) : Written (text ++ newLine level) tokens := by
  have both := written.append (written_newLine level)
  rwa [List.append_nil] at both

theorem written_member (name : String) (level : Nat) {text : List Char} {tokens : List Token}
    (value : Written text tokens) :
    Written (newLine level ++ stringText name ++ ':' :: ' ' :: text)
      (.string name :: .colon :: tokens) := by
  have spaced : Written (' ' :: text) tokens := .blank (by decide) value
  have named := (written_newLine level).append (.single (lexeme_stringText name))
  exact named.append (.mark .colon spaced)

mutual
theorem written_pretty : (value : Json) → value.Numberless → ∀ level,
    Written (value.pretty level) value.tokens
  | .null, _, _ => .single .null
  | .bool true, _, _ => .single .true
  | .bool false, _, _ => .single .false
  | .string text, _, _ => .single (lexeme_stringText text)
  | .array [], _, _ => .mark .openArray (.single .closeArray)
  | .array (item :: rest), numberless, level => by
    have items := written_prettyItems (item :: rest) numberless (level + 1)
    exact .mark .openArray ((items.append_newLine level).append (.single .closeArray))
  | .object [], _, _ => .mark .openObject (.single .closeObject)
  | .object (member :: rest), numberless, level => by
    have members := written_prettyMembers (member :: rest) numberless (level + 1)
    exact .mark .openObject ((members.append_newLine level).append (.single .closeObject))

private theorem written_prettyItems : (items : List Json) → ItemsNumberless items → ∀ level,
    Written (prettyItems level items) (itemTokens items)
  | [], _, _ => .nil
  | [item], numberless, level =>
    (written_newLine level).append (written_pretty item numberless.1 level)
  | item :: next :: rest, numberless, level => by
    have first := (written_newLine level).append (written_pretty item numberless.1 level)
    have later := written_prettyItems (next :: rest) numberless.2 level
    exact first.append (.mark .comma later)

private theorem written_prettyMembers : (members : List (String × Json)) → MembersNumberless members →
    ∀ level, Written (prettyMembers level members) (memberTokens members)
  | [], _, _ => .nil
  | [(name, value)], numberless, level =>
    written_member name level (written_pretty value numberless.1 level)
  | (name, value) :: next :: rest, numberless, level => by
    have first := written_member name level (written_pretty value numberless.1 level)
    have later := written_prettyMembers (next :: rest) numberless.2 level
    exact first.append (.mark .comma later)
end

theorem written_toPrettyText {value : Json} (numberless : value.Numberless) :
    Written value.toPrettyText.toList value.tokens := by
  rw [toPrettyText, String.toList_ofList]
  exact written_pretty value numberless 0

end TreeShell.Json
