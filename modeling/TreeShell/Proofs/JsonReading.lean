import TreeShell.Json.Reader
import TreeShell.Proofs.JsonPrinting

/-! Tokens read back as values. The reader keeps no more of what surrounds a value than
its stack, so a value is read the same at any place that is deep enough inside the
nesting limit, and refused at any other. -/

namespace TreeShell.Json

mutual
/-- How many arrays and objects are open at once inside a value. -/
def nesting : Json → Nat
  | .array items => itemNesting items + 1
  | .object members => memberNesting members + 1
  | _ => 0

def itemNesting : List Json → Nat
  | [] => 0
  | item :: rest => max item.nesting (itemNesting rest)

def memberNesting : List (String × Json) → Nat
  | [] => 0
  | (_, value) :: rest => max value.nesting (memberNesting rest)
end

theorem memberNesting_le_iff {members : List (String × Json)} {bound : Nat} :
    memberNesting members ≤ bound ↔ ∀ member ∈ members, member.2.nesting ≤ bound := by
  induction members with
  | nil => simp [memberNesting]
  | cons member rest ih => rw [memberNesting, Nat.max_le, ih, List.forall_mem_cons]

namespace Reader

/-- A reader that has come through `level` open arrays and objects. -/
def within (level : Nat) (reader : Reader) : Option Reader :=
  if level < nestingLimit then some reader else none

private theorem within_of_lt {level : Nat} {reader : Reader} (fits : level < nestingLimit) :
    within level reader = some reader :=
  if_pos fits

private theorem within_of_not_lt {level : Nat} {reader : Reader} (deep : ¬level < nestingLimit) :
    within level reader = none :=
  if_neg deep

private theorem within_bind {first second : Nat} {reader later : Reader} {next : Reader → Option Reader}
    (after : first < nestingLimit → next reader = within second later) :
    (within first reader).bind next = within (max first second) later := by
  by_cases fits : first < nestingLimit
  · rw [within_of_lt fits, Option.bind_some, after fits]
    unfold within
    congr 1
    exact propext (by omega)
  · have deep : ¬max first second < nestingLimit := by omega
    rw [within_of_not_lt fits, within_of_not_lt deep]
    rfl

private theorem within_bind_some {level : Nat} {reader later : Reader} {next : Reader → Option Reader}
    (after : next reader = some later) : (within level reader).bind next = within level later := by
  have most : some later = within 0 later := (within_of_lt (by decide)).symm
  rw [within_bind fun _ => after.trans most, Nat.max_zero]

private theorem within_bind_inside {level inner : Nat} {reader later : Reader}
    {next : Reader → Option Reader}
    (after : level + 1 < nestingLimit → next reader = within (level + 1 + inner) later) :
    (within (level + 1) reader).bind next = within (level + (inner + 1)) later := by
  have deeper : level + (inner + 1) = max (level + 1) (level + 1 + inner) := by omega
  rw [deeper]
  exact within_bind after

private theorem within_bind_beside {level first second : Nat} {reader later : Reader}
    {next : Reader → Option Reader} (after : next reader = within (level + second) later) :
    (within (level + first) reader).bind next = within (level + max first second) later := by
  rw [← Nat.add_max_add_left]
  exact within_bind fun _ => after

theorem step_openArray (stack : List Frame) :
    step ⟨stack, .value⟩ .openArray =
      within (stack.length + 1) ⟨.array [] :: stack, .firstItem⟩ :=
  rfl

theorem step_openObject (stack : List Frame) :
    step ⟨stack, .value⟩ .openObject = within (stack.length + 1) ⟨stack, .name [] true⟩ :=
  rfl

private theorem foldlM_firstItem (item : Json) (rest : List Json) (stack : List Frame)
    (after : List Token) :
    (itemTokens (item :: rest) ++ after).foldlM step ⟨stack, .firstItem⟩ =
      (itemTokens (item :: rest) ++ after).foldlM step ⟨stack, .value⟩ := by
  cases item <;> cases rest <;> rfl

mutual
/-- The tokens of a value are read as that value, as long as the nesting limit allows. -/
theorem foldlM_tokens : (value : Json) → ∀ stack : List Frame, stack.length < nestingLimit →
    value.tokens.foldlM step ⟨stack, .value⟩ =
      within (stack.length + value.nesting) (complete value stack)
  | .null, _, room => (within_of_lt room).symm
  | .bool _, _, room => (within_of_lt room).symm
  | .number _, _, room => (within_of_lt room).symm
  | .string _, _, room => (within_of_lt room).symm
  | .array [], stack, _ => by
    rw [tokens, List.cons_append, List.foldlM_cons, step_openArray]
    exact within_bind_some rfl
  | .array (item :: rest), stack, _ => by
    rw [tokens, List.cons_append, List.foldlM_cons, step_openArray, nesting]
    refine within_bind_inside fun room => ?_
    rw [foldlM_firstItem, List.foldlM_append, foldlM_itemTokens (item :: rest) nofun [] stack room]
    refine within_bind_some ?_
    simp [step]
  | .object [], stack, _ => by
    rw [tokens, List.cons_append, List.foldlM_cons, step_openObject]
    exact within_bind_some rfl
  | .object (member :: rest), stack, _ => by
    rw [tokens, List.cons_append, List.foldlM_cons, step_openObject, nesting]
    refine within_bind_inside fun room => ?_
    rw [List.foldlM_append, foldlM_memberTokens (member :: rest) nofun [] true stack room]
    refine within_bind_some ?_
    simp [step]

private theorem foldlM_itemTokens : (items : List Json) → items ≠ [] → ∀ (earlier : List Json)
    (stack : List Frame), stack.length + 1 < nestingLimit →
    (itemTokens items).foldlM step ⟨.array earlier :: stack, .value⟩ =
      within (stack.length + 1 + itemNesting items) ⟨stack, .afterItem (items.reverse ++ earlier)⟩
  | [], filled, _, _, _ => absurd rfl filled
  | [item], _, earlier, stack, room => by
    have inside := foldlM_tokens item (.array earlier :: stack) room
    simpa [itemTokens, itemNesting, complete] using inside
  | item :: next :: rest, _, earlier, stack, room => by
    have inside := foldlM_tokens item (.array earlier :: stack) room
    have later := foldlM_itemTokens (next :: rest) nofun (item :: earlier) stack room
    rw [itemTokens, List.foldlM_append, inside, itemNesting]
    · refine within_bind_beside ?_
      simpa [complete, step] using later
    · exact nofun

private theorem foldlM_memberTokens : (members : List (String × Json)) → members ≠ [] →
    ∀ (earlier : List (String × Json)) (closable : Bool) (stack : List Frame),
    stack.length + 1 < nestingLimit →
    (memberTokens members).foldlM step ⟨stack, .name earlier closable⟩ =
      within (stack.length + 1 + memberNesting members)
        ⟨stack, .afterMember (members.reverse ++ earlier)⟩
  | [], filled, _, _, _, _ => absurd rfl filled
  | [(name, value)], _, earlier, _, stack, room => by
    have inside := foldlM_tokens value (.object earlier name :: stack) room
    simpa [memberTokens, step, memberNesting, complete] using inside
  | (name, value) :: next :: rest, _, earlier, closable, stack, room => by
    have opened (after : List Token) :
        (.string name :: .colon :: after : List Token).foldlM step ⟨stack, .name earlier closable⟩ =
          after.foldlM step ⟨.object earlier name :: stack, .value⟩ := rfl
    have inside := foldlM_tokens value (.object earlier name :: stack) room
    have later := foldlM_memberTokens (next :: rest) nofun ((name, value) :: earlier) false stack room
    rw [memberTokens, List.cons_append, List.cons_append, opened, List.foldlM_append, inside,
      memberNesting]
    · refine within_bind_beside ?_
      simpa [complete, step] using later
    · exact nofun
end

end Reader

/-- Any text that spells a value is read as it if fewer than the limit of its arrays and
objects are open at once, and refused if not. -/
theorem ofText?_of_written {text : String} {value : Json}
    (written : Written text.toList value.tokens) :
    ofText? text = if value.nesting < nestingLimit then some value else none := by
  have read := Reader.foldlM_tokens value [] (by decide)
  rw [ofText?, tokens?_of_written written, Option.bind_eq_bind, Option.bind_some, Reader.start,
    read, List.length_nil, Nat.zero_add]
  by_cases fits : value.nesting < nestingLimit
  · rw [Reader.within_of_lt fits, if_pos fits]
    rfl
  · rw [Reader.within_of_not_lt fits, if_neg fits]
    rfl

theorem ofText?_toPrettyText {value : Json} (numberless : value.Numberless) :
    ofText? value.toPrettyText = if value.nesting < nestingLimit then some value else none :=
  ofText?_of_written (written_toPrettyText numberless)

end TreeShell.Json
