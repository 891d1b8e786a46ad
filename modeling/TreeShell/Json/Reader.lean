import TreeShell.Json.Token

/-! JSON values out of tokens. The reader takes one token at a time and keeps the
arrays and objects that are open on a stack, which may not grow without bound. -/

namespace TreeShell.Json

/-- An open array or object around the value that is being read, last part first. -/
inductive Frame where
  | array (items : List Json)
  | object (members : List (String × Json)) (name : String)

inductive State where
  | value
  | firstItem
  | name (members : List (String × Json)) (closable : Bool)
  | colon (members : List (String × Json)) (name : String)
  | afterItem (items : List Json)
  | afterMember (members : List (String × Json))
  | finished (value : Json)

structure Reader where
  stack : List Frame
  state : State

/-- Arrays and objects may be open inside one another to one level less than this. -/
def nestingLimit : Nat := 128

namespace Reader

def start : Reader := ⟨[], .value⟩

/-- Put a finished value where it belongs. -/
def complete (value : Json) : List Frame → Reader
  | [] => ⟨[], .finished value⟩
  | .array items :: stack => ⟨stack, .afterItem (value :: items)⟩
  | .object members name :: stack => ⟨stack, .afterMember ((name, value) :: members)⟩

def beginValue (stack : List Frame) (token : Token) : Option Reader :=
  match token with
  | .null => some (complete .null stack)
  | .bool value => some (complete (.bool value) stack)
  | .number value => some (complete (.number value) stack)
  | .string value => some (complete (.string value) stack)
  | .openArray =>
    if stack.length + 1 < nestingLimit then some ⟨.array [] :: stack, .firstItem⟩ else none
  | .openObject =>
    if stack.length + 1 < nestingLimit then some ⟨stack, .name [] true⟩ else none
  | _ => none

def step (reader : Reader) (token : Token) : Option Reader :=
  match reader.state, token with
  | .value, token => beginValue reader.stack token
  | .firstItem, .closeArray =>
    match reader.stack with
    | .array items :: stack => some (complete (.array items.reverse) stack)
    | _ => none
  | .firstItem, token => beginValue reader.stack token
  | .name members _, .string name => some ⟨reader.stack, .colon members name⟩
  | .name members true, .closeObject => some (complete (.object members.reverse) reader.stack)
  | .colon members name, .colon => some ⟨.object members name :: reader.stack, .value⟩
  | .afterItem items, .comma => some ⟨.array items :: reader.stack, .value⟩
  | .afterItem items, .closeArray => some (complete (.array items.reverse) reader.stack)
  | .afterMember members, .comma => some ⟨reader.stack, .name members false⟩
  | .afterMember members, .closeObject => some (complete (.object members.reverse) reader.stack)
  | _, _ => none

def result? (reader : Reader) : Option Json :=
  match reader.state with
  | .finished value => some value
  | _ => none

end Reader

/-- The value that a text spells, if it spells one and nothing else. -/
def ofText? (text : String) : Option Json := do
  let tokens ← tokens? text.toList
  let reader ← tokens.foldlM Reader.step Reader.start
  reader.result?

end TreeShell.Json
