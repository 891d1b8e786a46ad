import TreeShell.Text.Quoted

/-! JSON values and their texts. Members of an object keep their order and may
repeat a name; what a repetition means is left to whoever reads the value. -/

namespace TreeShell

/-- A number is an integer as long as 64 bits hold it; any other keeps its spelling. -/
inductive JsonNumber where
  | integer (value : Int)
  | decimal (spelling : String)
deriving DecidableEq, Repr

inductive Json where
  | null
  | bool (value : Bool)
  | number (value : JsonNumber)
  | string (value : String)
  | array (items : List Json)
  | object (members : List (String × Json))
deriving Inhabited

namespace Json

/-- One character inside a JSON string: quotes, backslashes and the C0 controls are
escaped, and nothing else is. -/
def escapeCharacter : Char → List Char
  | '"' => ['\\', '"']
  | '\\' => ['\\', '\\']
  | '\n' => ['\\', 'n']
  | '\r' => ['\\', 'r']
  | '\t' => ['\\', 't']
  | '\x08' => ['\\', 'b']
  | '\x0c' => ['\\', 'f']
  | character =>
    if character.toNat < 0x20 then
      ['\\', 'u', '0', '0', Text.hexDigit (character.toNat / 16),
        Text.hexDigit (character.toNat % 16)]
    else [character]

def stringText (text : String) : List Char :=
  '"' :: text.toList.flatMap escapeCharacter ++ ['"']

def numberText : JsonNumber → List Char
  | .integer value => (toString value).toList
  | .decimal spelling => spelling.toList

mutual
def compact : Json → List Char
  | .null => "null".toList
  | .bool true => "true".toList
  | .bool false => "false".toList
  | .number value => numberText value
  | .string value => stringText value
  | .array items => '[' :: compactItems items ++ [']']
  | .object members => '\x7b' :: compactMembers members ++ ['\x7d']

def compactItems : List Json → List Char
  | [] => []
  | [item] => item.compact
  | item :: rest => item.compact ++ ',' :: compactItems rest

def compactMembers : List (String × Json) → List Char
  | [] => []
  | [(name, value)] => stringText name ++ ':' :: value.compact
  | (name, value) :: rest => stringText name ++ ':' :: value.compact ++ ',' :: compactMembers rest
end

/-- A new line at a level of nesting, two blanks to a level. -/
def newLine (level : Nat) : List Char :=
  '\n' :: List.replicate (2 * level) ' '

mutual
def pretty (level : Nat) : Json → List Char
  | .null => "null".toList
  | .bool true => "true".toList
  | .bool false => "false".toList
  | .number value => numberText value
  | .string value => stringText value
  | .array [] => ['[', ']']
  | .array items => '[' :: prettyItems (level + 1) items ++ newLine level ++ [']']
  | .object [] => ['\x7b', '\x7d']
  | .object members => '\x7b' :: prettyMembers (level + 1) members ++ newLine level ++ ['\x7d']

def prettyItems (level : Nat) : List Json → List Char
  | [] => []
  | [item] => newLine level ++ item.pretty level
  | item :: rest => newLine level ++ item.pretty level ++ ',' :: prettyItems level rest

def prettyMembers (level : Nat) : List (String × Json) → List Char
  | [] => []
  | [(name, value)] => newLine level ++ stringText name ++ ':' :: ' ' :: value.pretty level
  | (name, value) :: rest =>
    newLine level ++ stringText name ++ ':' :: ' ' :: value.pretty level ++
      ',' :: prettyMembers level rest
end

def toText (value : Json) : String :=
  String.ofList value.compact

def toPrettyText (value : Json) : String :=
  String.ofList (value.pretty 0)

end Json
end TreeShell
