import TreeShell.Settings.Setting
import TreeShell.Toml.Document
import TreeShell.Settings.Basic

/-! Layers of settings, put one over another. A table of an upper layer is merged
into the one below it name by name; anything else replaces what is there. Names differ
by more than case. -/

namespace TreeShell

/-- A step of a key from a setting to one inside it. -/
inductive KeyStep where
  | member (name : String)
  /-- Items are counted from the first one, or back from the end. -/
  | item (index : Int)
deriving DecidableEq, Repr

abbrev Layer := List (String × Setting)

namespace KeyStep

def isNameCharacter (character : Char) : Bool :=
  character.isAlphanum || character == ' ' || character == '_' || character == '-'

def isGap (character : Char) : Bool :=
  character == ' ' || character == '\t'

/-- An index in brackets after the opening one, with what follows the closing one. A
number too large for a signed word is none. -/
def index? (text : List Char) : Option (Int × List Char) :=
  let text := text.dropWhile isGap
  let (negative, text) := match text with
    | '-' :: rest => (true, rest)
    | rest => (false, rest)
  match Digits.leading text, (Digits.after text).dropWhile isGap with
  | [], _ => none
  | digits, ']' :: rest =>
    let size : Int := Digits.value 10 digits
    let number := if negative then -size else size
    if Digits.isWord number then some (number, rest) else none
  | _, _ => none

def more? : Nat → List Char → Option (List KeyStep)
  | _, [] => some []
  | 0, _ => none
  | limit + 1, '.' :: rest =>
    match rest.takeWhile isNameCharacter with
    | [] => none
    | name => (more? limit (rest.dropWhile isNameCharacter)).map
      (.member (Text.lowercase (String.ofList name)) :: ·)
  | limit + 1, '[' :: rest =>
    (index? rest).bind fun (index, rest) => (more? limit rest).map (.item index :: ·)
  | _, _ => none

/-- The steps that a key spells. A key that spells none is one name as a whole. -/
def ofKey (key : String) : List KeyStep :=
  let text := key.toList
  let steps : Option (List KeyStep) := match text.takeWhile isNameCharacter with
    | [] => none
    | name => (more? text.length (text.dropWhile isNameCharacter)).map
      (.member (Text.lowercase (String.ofList name)) :: ·)
  steps.getD [.member (Text.lowercase key)]

end KeyStep

namespace Setting

mutual
/-- What is under a name once a value is put over what was there. -/
def merge (present : Option Setting) : Setting → Setting
  | .table incoming => mergeMembers (present.getD (.table [])) incoming
  | value => value

/-- A setting with members put over it in turn. It becomes a table with the first. -/
def mergeMembers (present : Setting) : List (String × Setting) → Setting
  | [] => present
  | (name, value) :: rest =>
    let name := Text.lowercase name
    mergeMembers (.table (putSetting name (merge (present.members.lookup name) value)
      present.members)) rest
end

def place (length : Nat) (index : Int) : Nat :=
  if 0 ≤ index then index.toNat else length - index.natAbs

def changeItem (change : Setting → Setting) (index : Int) (items : List Setting) : List Setting :=
  let place := place items.length index
  let items := items ++ List.replicate (place + 1 - items.length) .absent
  items.modify place change

/-- Change what is inside a setting. What does not have such an inside is replaced by
something that has. -/
def changeAt (change : Setting → Setting) : List KeyStep → Setting → Setting
  | [], setting => change setting
  | .member name :: steps, setting =>
    .table (putSetting name
      (changeAt change steps ((setting.members.lookup name).getD .absent)) setting.members)
  | .item index :: steps, setting =>
    .list (changeItem (changeAt change steps) index setting.items)

def putAt (step : KeyStep) (value setting : Setting) : Setting :=
  match step with
  | .member name => mergeMembers (.table setting.members) [(name, value)]
  | .item index => .list (changeItem (fun _ => value) index setting.items)

def assign (setting : Setting) (key : String) (value : Setting) : Setting :=
  let steps := KeyStep.ofKey key
  match steps.getLast? with
  | none => setting
  | some last => changeAt (putAt last value) steps.dropLast setting

def withLayer (setting : Setting) (layer : Layer) : Setting :=
  layer.foldl (fun setting (key, value) => setting.assign key value) setting

/-- What all layers make together, the lowest first. -/
def ofLayers (layers : List Layer) : Setting :=
  layers.foldl withLayer (.table [])

end Setting

namespace Layer

def withPoints : List Char → List Char
  | '_' :: '_' :: rest => '.' :: withPoints rest
  | first :: rest => first :: withPoints rest
  | [] => []

/-- What the names of variables that carry settings start with, in any case. -/
def variableMark : String := "termfolio__"

/-- The variables that carry settings, where two underscores stand between names. -/
def ofVariables (entries : List (String × String)) : Layer :=
  entries.filterMap fun (name, value) =>
    let key := (Text.lowercase name).toList
    if variableMark.toList.isPrefixOf key then
      some (String.ofList (withPoints (key.drop variableMark.length)), Setting.ofVariable value)
    else none

def ofDocument? (document : String) : Option Layer :=
  match (Toml.ofDocument? document).bind Setting.ofTomlTable? with
  | some (.table members) => some members
  | _ => none

end Layer
end TreeShell
