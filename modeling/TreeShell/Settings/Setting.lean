import TreeShell.Number.Shortest
import TreeShell.Text.Casing
import TreeShell.Toml.Moment
import TreeShell.Toml.Value

/-! A setting as a layer gives it, and what can be made of it. A value of one kind
stands in for another wherever its meaning is plain: numbers and switches are texts
where a text is wanted, and words are switches. -/

namespace TreeShell

inductive Setting where
  | absent
  | bool (value : Bool)
  | integer (value : Int)
  | float (value : Double)
  | text (value : String)
  | list (items : List Setting)
  | table (members : List (String × Setting))
deriving Inhabited

namespace Setting

def members : Setting → List (String × Setting)
  | .table members => members
  | _ => []

def items : Setting → List Setting
  | .list items => items
  | _ => []

/-- The name that makes a table a date or a time if it comes first. -/
def momentName : String := "$__toml_private_datetime"

/-- The date or the time that a table with the name for it gives, which is a text. -/
def ofMoment? : Toml → Option Setting
  | .string spelling =>
    (Toml.momentOfText? spelling.toList).map fun moment => .text (String.ofList moment)
  | _ => none

mutual
def ofToml? : Toml → Option Setting
  | .bool value => some (.bool value)
  | .integer value => some (.integer value)
  | .float value => some (.float value)
  | .string value => some (.text value)
  | .moment spelling => some (.text spelling)
  | .array items => (ofTomlItems? items).map .list
  | .table _ members => ofTomlTable? members
  | .tables items => (ofTomlTables? items).map .list

def ofTomlItems? : List Toml → Option (List Setting)
  | [] => some []
  | item :: rest => do pure ((← ofToml? item) :: (← ofTomlItems? rest))

def ofTomlTable? : List (String × Toml) → Option Setting
  | [] => some (.table [])
  | (name, value) :: rest =>
    if name == momentName then ofMoment? value
    else do pure (.table ((name, ← ofToml? value) :: (← ofTomlMembers? rest)))

def ofTomlMembers? : List (String × Toml) → Option (List (String × Setting))
  | [] => some []
  | (name, value) :: rest => do pure ((name, ← ofToml? value) :: (← ofTomlMembers? rest))

def ofTomlTables? : List (List (String × Toml)) → Option (List Setting)
  | [] => some []
  | members :: rest => do pure ((← ofTomlTable? members) :: (← ofTomlTables? rest))
end

/-- A text that a variable carries, read as a switch, an integer or a number if it is
spelled like one. -/
def ofVariable (value : String) : Setting :=
  match Text.lowercase value with
  | "true" => .bool true
  | "false" => .bool false
  | _ =>
    match (Digits.integer? value.toList).filter Digits.isWord with
    | some number => .integer number
    | none =>
      match Double.ofText? value.toList with
      | some number => .float number
      | none => .text value

def text? : Setting → Option String
  | .bool value => some (toString value)
  | .integer value => some (toString value)
  | .float value => some value.toText
  | .text value => some value
  | .absent | .list _ | .table _ => none

def switchOfWord? (word : String) : Option Bool :=
  if ["true", "on", "yes"].contains word then some true
  else if ["false", "off", "no"].contains word then some false
  else none

def bool? : Setting → Option Bool
  | .bool value => some value
  | .integer value => some (value != 0)
  | .float value => some !value.isZero
  | .text value =>
    match Text.lowercase value with
    | "1" => some true
    | "0" => some false
    | word => switchOfWord? word
  | .absent | .list _ | .table _ => none

def natural? : Setting → Option Nat
  | .bool value => some value.toNat
  | .integer value => if 0 ≤ value then some value.toNat else none
  | .float value => some value.toWord
  | .text value =>
    match switchOfWord? (Text.lowercase value) with
    | some word => some word.toNat
    | none =>
      let digits := match value.toList with
        | '+' :: rest => rest
        | digits => digits
      (Digits.natural? digits).filter (· < Digits.wordLimit)
  | .absent | .list _ | .table _ => none

/-- One of several choices by its name, in any case; a table with one member chooses by
that member's name. -/
def choice? (all : List α) (name : α → String) (setting : Setting) : Option α :=
  let named (given : String) := all.find? fun one => name one == Text.lowercase given
  match setting with
  | .text given => named given
  | .table [(given, _)] => named given
  | _ => none

def optional? (read : Setting → Option α) : Setting → Option (Option α)
  | .absent => some none
  | setting => (read setting).map some

def texts? : Setting → Option (List String)
  | .list items => items.mapM text?
  | _ => none

def textMap? : Setting → Option (List (String × String))
  | .table members => members.mapM fun (name, value) => value.text?.map (name, ·)
  | _ => none

/-- The members of a section: those of a table, or the items of a list under the names
of the section in order. -/
def section? (names : List String) : Setting → Option (List (String × Setting))
  | .table members => some members
  | .list items => some (names.zip items)
  | _ => none

/-- A member as `read` makes of it, or the standard value where it is missing. -/
def member? (members : List (String × Setting)) (name : String) (read : Setting → Option α)
    (standard : α) : Option α :=
  match members.lookup name with
  | none => some standard
  | some setting => read setting

end Setting
end TreeShell
