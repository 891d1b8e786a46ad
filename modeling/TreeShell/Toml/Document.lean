import TreeShell.Toml.Moment
import TreeShell.Toml.Numeral
import TreeShell.Toml.Quotation

/-! Reading a TOML document: keys, values, and lines that put values into tables. Each
reader answers what it read with what follows; a document is read to its end. -/

namespace TreeShell.Toml

def skipBlanks (text : List Char) : List Char :=
  text.dropWhile fun character => character == ' ' || character == '\t'

def skipComment (text : List Char) : List Char :=
  text.dropWhile isPlain

/-- What follows blanks, line ends and comments. `comment` tells that the text starts
inside of a comment. -/
def skipLines (comment : Bool) : List Char → List Char
  | [] => []
  | '\n' :: rest => skipLines false rest
  | '\r' :: '\n' :: rest => skipLines false rest
  | character :: rest =>
    if comment then if isPlain character then skipLines true rest else character :: rest
    else if character == ' ' || character == '\t' then skipLines false rest
    else if character == '#' then skipLines true rest
    else character :: rest

def endLine (text : List Char) : Option (List Char) :=
  let rest := match skipBlanks text with
    | '#' :: rest => skipComment rest
    | rest => rest
  match rest with
  | [] => some []
  | '\n' :: rest => some rest
  | '\r' :: '\n' :: rest => some rest
  | _ => none

def isBare (character : Char) : Bool :=
  character.isAlphanum || character == '_' || character == '-'

def readKeyPart (text : List Char) : Option (String × List Char) :=
  match text.takeWhile isBare with
  | [] => (readLineString text).map fun (name, rest) => (String.ofList name, rest)
  | name => some (String.ofList name, text.dropWhile isBare)

def keyLimit : Nat := 79

def readKey : Nat → List Char → Option (List String × List Char)
  | 0, _ => none
  | limit + 1, text =>
    match readKeyPart (skipBlanks text) with
    | none => none
    | some (name, rest) =>
      match skipBlanks rest with
      | '.' :: rest => (readKey limit rest).map fun (names, rest) => (name :: names, rest)
      | rest => some ([name], rest)

def readScalar (text : List Char) : Option (Toml × List Char) :=
  match text with
  | 't' :: 'r' :: 'u' :: 'e' :: rest => some (.bool true, rest)
  | 'f' :: 'a' :: 'l' :: 's' :: 'e' :: rest => some (.bool false, rest)
  | '"' :: _ | '\'' :: _ =>
    (readString text).map fun (value, rest) => (.string (String.ofList value), rest)
  | text =>
    match readMoment text with
    | some (spelling, rest) => some (.moment (String.ofList spelling), rest)
    | none => readNumber text

abbrev Reader := List Char → Option (Toml × List Char)

/-- The items of an array after its opening bracket, fewer than `limit` of them. -/
def readItems (read : Reader) : Nat → List Char → Option (List Toml × List Char)
  | 0, _ => none
  | limit + 1, text =>
    match skipLines false text with
    | ']' :: rest => some ([], rest)
    | text =>
      match read text with
      | none => none
      | some (item, rest) =>
        match skipLines false rest with
        | ']' :: rest => some ([item], rest)
        | ',' :: rest => (readItems read limit rest).map fun (items, rest) => (item :: items, rest)
        | _ => none

def readPairInto (read : Reader) (members : Members) (text : List Char) :
    Option (Members × List Char) := do
  let (key, rest) ← readKey keyLimit text
  let rest ← expect '=' rest
  let (value, rest) ← read (skipBlanks rest)
  let name ← key.getLast?
  let members ← putDotted? name value key.dropLast members
  pure (members, rest)

/-- The members of a table in braces from the first key on, at most `limit` of them. -/
def readMembers (read : Reader) : Nat → Members → List Char → Option (Members × List Char)
  | 0, _, _ => none
  | limit + 1, members, text =>
    match readPairInto read members text with
    | none => none
    | some (members, rest) =>
      match skipBlanks rest with
      | '\x7d' :: rest => some (members, rest)
      | ',' :: rest => readMembers read limit members rest
      | _ => none

def nestingLimit : Nat := 79

def readValue : Nat → Reader
  | 0, text => readScalar text
  | depth + 1, text =>
    match text with
    | '[' :: rest =>
      (readItems (readValue depth) text.length rest).map fun (items, rest) => (.array items, rest)
    | '\x7b' :: rest =>
      match skipBlanks rest with
      | '\x7d' :: rest => some (.table .inline [], rest)
      | rest =>
        (readMembers (readValue depth) text.length [] rest).map fun (members, rest) =>
          (.table .inline members, rest)
    | text => readScalar text

/-- A document as far as it has been read: the tables so far, and the header whose table
takes the keys that follow. -/
structure Draft where
  members : Members
  header : List String

def readHeader (openAt : String → Members → Option Members) (close : List Char) (draft : Draft)
    (text : List Char) : Option (Draft × List Char) := do
  let (key, rest) ← readKey keyLimit text
  let rest ← close.foldlM (fun rest character => expect character rest) rest
  let rest ← endLine rest
  let name ← key.getLast?
  let members ← changeAt? (openAt name) key.dropLast draft.members
  pure (⟨members, key⟩, rest)

/-- A key with its value, put into the table of the header, up to the end of its line. -/
def readLine (draft : Draft) (text : List Char) : Option (Draft × List Char) := do
  let (key, rest) ← readKey keyLimit text
  let rest ← expect '=' rest
  let (value, rest) ← readValue nestingLimit (skipBlanks rest)
  let rest ← endLine rest
  let name ← key.getLast?
  let members ← changeAt? (putDotted? name value key.dropLast) draft.header draft.members
  pure ({ draft with members }, rest)

def readLines : Nat → Draft → List Char → Option Members
  | 0, _, _ => none
  | limit + 1, draft, text =>
    match skipLines false text with
    | [] => some draft.members
    | '[' :: '[' :: rest =>
      (readHeader openItem? [']', ']'] draft rest).bind fun (draft, rest) =>
        readLines limit draft rest
    | '[' :: rest =>
      (readHeader openTable? [']'] draft rest).bind fun (draft, rest) => readLines limit draft rest
    | text => (readLine draft text).bind fun (draft, rest) => readLines limit draft rest

def ofDocument? (document : String) : Option Members :=
  let text := match document.toList with
    | '\uFEFF' :: rest => rest
    | text => text
  readLines (text.length + 1) ⟨[], []⟩ text

end TreeShell.Toml
