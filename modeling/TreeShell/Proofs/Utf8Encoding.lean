import TreeShell.Text.Utf8

/-! The bytes of a text. Decoding takes the bytes of one character at a time and so
gives every text back from its bytes; and since no character's bytes begin another's,
texts are in the order of their bytes. -/

namespace TreeShell.Text.Utf8

/-! ### The bytes of a text are those of its characters -/

private theorem toList_loop (bytes : ByteArray) (index : Nat) (seen : List UInt8) :
    ByteArray.toList.loop bytes index seen = seen.reverse ++ bytes.data.toList.drop index := by
  fun_induction ByteArray.toList.loop bytes index seen with
  | case1 index seen inside ih =>
    have here : index < bytes.data.toList.length := inside
    rw [ih, List.drop_eq_getElem_cons here]
    simp [ByteArray.get!, getElem!_pos bytes.data index inside]
  | case2 index seen outside =>
    have past : bytes.data.toList.length ≤ index := Nat.le_of_not_lt outside
    rw [List.drop_eq_nil_of_le past, List.append_nil]

private theorem encode_eq (text : String) : encode text = text.toList.flatMap String.utf8EncodeChar := by
  have whole : text.toUTF8.toList = text.toUTF8.data.toList := by
    rw [ByteArray.toList, toList_loop]
    rfl
  rw [encode, whole, String.toUTF8_eq_toByteArray, ← String.utf8Encode_toList, List.utf8Encode,
    List.toList_data_toByteArray]

/-! ### Decoding -/

variable {byte : UInt8} {begun : Partial} {rest : List UInt8}

private theorem scan_opening (opens : lead byte = .opening begun) :
    scan none (byte :: rest) = scan (some begun) rest := by
  simp [scan, opens]

private theorem scan_more (low : begun.low ≤ byte.toNat) (high : byte.toNat ≤ begun.high)
    (more : begun.missing ≠ 1) :
    scan (some begun) (byte :: rest) =
      scan (some ⟨begun.bits * 64 + (byte.toNat - 0x80), begun.missing - 1, 0x80, 0xBF⟩) rest := by
  simp [scan, low, high, more]

private theorem scan_last (low : begun.low ≤ byte.toNat) (high : byte.toNat ≤ begun.high)
    (last : begun.missing = 1) :
    scan (some begun) (byte :: rest) =
      some (Char.ofNat (begun.bits * 64 + (byte.toNat - 0x80))) :: scan none rest := by
  simp [scan, low, high, last]

private theorem lead_one (low : byte.toNat < 0x80) : lead byte = .whole (Char.ofNat byte.toNat) := by
  simp [lead, low]

private theorem lead_two (low : 0xC2 ≤ byte.toNat) (high : byte.toNat < 0xE0) :
    lead byte = .opening ⟨byte.toNat - 0xC0, 1, 0x80, 0xBF⟩ := by
  have above : ¬byte.toNat < 0x80 := by omega
  have begins : ¬byte.toNat < 0xC2 := by omega
  simp [lead, above, begins, high]

private theorem lead_three (low : 0xE0 ≤ byte.toNat) (high : byte.toNat < 0xF0) :
    lead byte = .opening ⟨byte.toNat - 0xE0, 2, if byte.toNat = 0xE0 then 0xA0 else 0x80,
      if byte.toNat = 0xED then 0x9F else 0xBF⟩ := by
  have above : ¬byte.toNat < 0x80 := by omega
  have begins : ¬byte.toNat < 0xC2 := by omega
  have longer : ¬byte.toNat < 0xE0 := by omega
  by_cases first : byte.toNat = 0xE0
  · simp [lead, first]
  · by_cases surrogate : byte.toNat = 0xED
    · simp [lead, surrogate]
    · simp [lead, above, begins, longer, high, first, surrogate]

/-- The second byte of four is kept from overlong forms and from what lies past the
last code point. -/
private theorem lead_four (low : 0xF0 ≤ byte.toNat) (high : byte.toNat ≤ 0xF4) :
    lead byte = .opening ⟨byte.toNat - 0xF0, 3, if byte.toNat = 0xF0 then 0x90 else 0x80,
      if byte.toNat = 0xF4 then 0x8F else 0xBF⟩ := by
  have above : ¬byte.toNat < 0x80 := by omega
  have begins : ¬byte.toNat < 0xC2 := by omega
  have longer : ¬byte.toNat < 0xE0 := by omega
  have longest : ¬byte.toNat < 0xF0 := by omega
  by_cases first : byte.toNat = 0xF0
  · simp [lead, first]
  · by_cases last : byte.toNat = 0xF4
    · simp [lead, last]
    · have between : byte.toNat < 0xF4 := by omega
      have notThree : byte.toNat ≠ 0xE0 ∧ byte.toNat ≠ 0xED := by omega
      simp [lead, above, begins, longer, longest, first, last, between, notThree]

private theorem toNat_byte (number : Nat) (fits : number < 0x100) :
    (UInt8.ofNat number).toNat = number :=
  UInt8.toNat_ofNat_of_lt fits

private theorem scan_encodeChar (character : Char) (rest : List UInt8) :
    scan none (String.utf8EncodeChar character ++ rest) = some character :: scan none rest := by
  have valid : character.toNat < 0xD800 ∨ 0xDFFF < character.toNat ∧ character.toNat < 0x110000 :=
    character.valid
  fun_cases String.utf8EncodeChar character with
  | case1 value one =>
    have spelled : Char.ofNat value = character := Char.ofNat_toNat character
    have first := toNat_byte value (by omega)
    have begins : lead (UInt8.ofNat value) = .whole (Char.ofNat (UInt8.ofNat value).toNat) :=
      lead_one (by omega)
    simp only [List.cons_append, List.nil_append, scan, begins, first, spelled]
  | case2 value above two =>
    have spelled : Char.ofNat value = character := Char.ofNat_toNat character
    have first := toNat_byte (value / 64 % 0x20 + 0xc0) (by omega)
    have second := toNat_byte (value % 0x40 + 0x80) (by omega)
    have total : (value / 64 % 0x20 + 0xc0 - 0xC0) * 64 + (value % 0x40 + 0x80 - 0x80) = value := by
      omega
    simp only [List.cons_append, List.nil_append]
    rw [scan_opening (lead_two (by omega) (by omega)), scan_last (by simp only; omega)
      (by simp only; omega) rfl]
    simp only [first, second, total, spelled]
  | case3 value above aboveTwo three =>
    have spelled : Char.ofNat value = character := Char.ofNat_toNat character
    have bounds : value < 0xD800 ∨ 0xDFFF < value := valid.imp_right And.left
    have first := toNat_byte (value / 4096 % 0x10 + 0xe0) (by omega)
    have second := toNat_byte (value / 64 % 0x40 + 0x80) (by omega)
    have third := toNat_byte (value % 0x40 + 0x80) (by omega)
    have total : ((value / 4096 % 0x10 + 0xe0 - 0xE0) * 64 + (value / 64 % 0x40 + 0x80 - 0x80)) * 64 +
        (value % 0x40 + 0x80 - 0x80) = value := by
      omega
    simp only [List.cons_append, List.nil_append]
    rw [scan_opening (lead_three (by omega) (by omega)),
      scan_more (by simp only [first, second]; split <;> omega)
        (by simp only [first, second]; split <;> omega) (by simp),
      scan_last (by simp only; omega) (by simp only; omega) rfl]
    simp only [first, second, third, total, spelled]
  | case4 value above aboveTwo aboveThree =>
    have spelled : Char.ofNat value = character := Char.ofNat_toNat character
    have bound : value < 0x110000 := valid.elim (fun low => Nat.lt_trans low (by decide)) And.right
    have first := toNat_byte (value / 262144 % 0x08 + 0xf0) (by omega)
    have second := toNat_byte (value / 4096 % 0x40 + 0x80) (by omega)
    have third := toNat_byte (value / 64 % 0x40 + 0x80) (by omega)
    have fourth := toNat_byte (value % 0x40 + 0x80) (by omega)
    have total : (((value / 262144 % 0x08 + 0xf0 - 0xF0) * 64 + (value / 4096 % 0x40 + 0x80 - 0x80)) * 64 +
        (value / 64 % 0x40 + 0x80 - 0x80)) * 64 + (value % 0x40 + 0x80 - 0x80) = value := by
      omega
    simp only [List.cons_append, List.nil_append]
    rw [scan_opening (lead_four (by omega) (by omega)),
      scan_more (by simp only [first, second]; split <;> omega)
        (by simp only [first, second]; split <;> omega) (by simp),
      scan_more (by simp only; omega) (by simp only; omega) (by simp),
      scan_last (by simp only; omega) (by simp only; omega) rfl]
    simp only [first, second, third, fourth, total, spelled]

theorem decode?_encode (text : String) : decode? (encode text) = some text := by
  have scanned (characters : List Char) :
      scan none (characters.flatMap String.utf8EncodeChar) = characters.map some := by
    induction characters with
    | nil => rfl
    | cons character rest ih => rw [List.flatMap_cons, scan_encodeChar, ih]; rfl
  have gathered (characters : List Char) : (characters.map some).mapM id = some characters := by
    induction characters with
    | nil => rfl
    | cons character rest ih => simp [ih]
  rw [decode?, encode_eq, scanned, gathered, Option.map_some, String.ofList_toList]

/-! ### Order -/

private theorem encodeChar_lt {first second : Char} (less : first < second)
    (after others : List UInt8) :
    String.utf8EncodeChar first ++ after < String.utf8EncodeChar second ++ others := by
  have values : first.val.toNat < second.val.toNat := less
  have bound : second.val.toNat < 0x110000 :=
    second.valid.elim (fun low => Nat.lt_trans low (by decide)) And.right
  unfold String.utf8EncodeChar
  dsimp only
  generalize first.val.toNat = low at values ⊢
  generalize second.val.toNat = high at values bound ⊢
  -- Digits in base 64 are told apart only once they are known to nest.
  have nestedLow : low / 4096 = low / 64 / 64 ∧ low / 262144 = low / 64 / 64 / 64 := by omega
  have nestedHigh : high / 4096 = high / 64 / 64 ∧ high / 262144 = high / 64 / 64 / 64 := by omega
  have topLow : low / 64 / 64 / 64 % 8 = low / 64 / 64 / 64 := by omega
  have topHigh : high / 64 / 64 / 64 % 8 = high / 64 / 64 / 64 := by omega
  rw [nestedLow.1, nestedLow.2, nestedHigh.1, nestedHigh.2, topLow, topHigh]
  repeat' split
  all_goals
    simp (disch := omega) only [List.cons_append, List.nil_append, List.cons_lt_cons_iff,
      UInt8.lt_iff_toNat_lt, ← UInt8.toNat_inj, toNat_byte]
    omega

theorem encode_lt_encode {first second : String} (less : first < second) :
    encode first < encode second := by
  rw [encode_eq, encode_eq]
  have ordered (one two : List Char) (before : one < two) :
      one.flatMap String.utf8EncodeChar < two.flatMap String.utf8EncodeChar := by
    induction one generalizing two with
    | nil =>
      cases two with
      | nil => cases before
      | cons character rest =>
        have filled : (character :: rest).flatMap String.utf8EncodeChar ≠ [] := by simp
        obtain ⟨byte, bytes, same⟩ := List.exists_cons_of_ne_nil filled
        rw [same]
        exact List.nil_lt_cons byte bytes
    | cons head tail ih =>
      cases two with
      | nil => cases before
      | cons character rest =>
        simp only [List.flatMap_cons]
        rcases List.cons_lt_cons_iff.mp before with lower | ⟨rfl, later⟩
        · exact encodeChar_lt lower _ _
        · exact List.append_left_lt (ih rest later)
  exact ordered _ _ less

theorem encode_lt_encode_iff {first second : String} : encode first < encode second ↔ first < second := by
  refine ⟨fun less => Classical.not_not.mp fun notLess => ?_, encode_lt_encode⟩
  have above : first ≤ second :=
    String.not_lt.mp fun reversed => List.lt_asymm less (encode_lt_encode reversed)
  obtain rfl := String.le_antisymm above (String.not_lt.mp notLess)
  exact List.lt_irrefl _ less

end TreeShell.Text.Utf8
