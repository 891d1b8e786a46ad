import TreeShell.Number.Double

/-! Values of a TOML document, and the tables that its lines build. -/

namespace TreeShell

/-- How a table came to be, which decides what may still be put into it. -/
inductive TableOrigin where
  /-- Written in braces, and complete with the closing one. -/
  | inline
  /-- Named by a header of its own. -/
  | header
  /-- Passed through by the header of a table below it. -/
  | implied
  /-- Passed through by a dotted key. -/
  | dotted
deriving DecidableEq, Repr

inductive Toml where
  | bool (value : Bool)
  | integer (value : Int)
  | float (value : Double)
  | string (value : String)
  /-- A date, a time, or both, in its standard spelling. -/
  | moment (text : String)
  | array (items : List Toml)
  | table (origin : TableOrigin) (members : List (String × Toml))
  /-- The tables of all headers in double brackets with one name. -/
  | tables (items : List (List (String × Toml)))

namespace Toml

abbrev Members := List (String × Toml)

def put (name : String) (value : Toml) : Members → Members
  | [] => [(name, value)]
  | (key, other) :: rest =>
    if key == name then (name, value) :: rest else (key, other) :: put name value rest

def putNew? (name : String) (value : Toml) (members : Members) : Option Members :=
  if (members.lookup name).isSome then none else some (put name value members)

/-- Put a value under a dotted key. The tables on the way may have been implied before,
but not written out; the one that takes the value is made by dotted keys alone. -/
def putDotted? (name : String) (value : Toml) : List String → Members → Option Members
  | [], members => putNew? name value members
  | step :: path, members =>
    match members.lookup step with
    | none =>
      (putDotted? name value path []).map fun inner => put step (.table .dotted inner) members
    | some (.table .dotted inner) =>
      (putDotted? name value path inner).map fun inner => put step (.table .dotted inner) members
    | some (.table .implied inner) =>
      if path.isEmpty then none
      else (putDotted? name value path inner).map fun inner =>
        put step (.table .implied inner) members
    | some (.tables items) =>
      if path.isEmpty then none
      else match items.getLast? with
        | none => none
        | some last => (putDotted? name value path last).map fun last =>
          put step (.tables (items.dropLast ++ [last])) members
    | some _ => none

/-- Change the table that the names of a header lead to. Missing tables are implied; of
tables in double brackets the last one is meant. -/
def changeAt? (change : Members → Option Members) : List String → Members → Option Members
  | [], members => change members
  | step :: path, members =>
    match members.lookup step with
    | none => (changeAt? change path []).map fun inner => put step (.table .implied inner) members
    | some (.table .inline _) => none
    | some (.table origin inner) =>
      (changeAt? change path inner).map fun inner => put step (.table origin inner) members
    | some (.tables items) =>
      match items.getLast? with
      | none => none
      | some last => (changeAt? change path last).map fun last =>
        put step (.tables (items.dropLast ++ [last])) members
    | some _ => none

/-- Open a table under its own header, which it can have only once. The table comes after
all that is there by then. -/
def openTable? (name : String) (members : Members) : Option Members :=
  match members.lookup name with
  | none => some (put name (.table .header []) members)
  | some (.table .implied inner) =>
    some (members.filter (fun (key, _) => key != name) ++ [(name, .table .header inner)])
  | some _ => none

def openItem? (name : String) (members : Members) : Option Members :=
  match members.lookup name with
  | none => some (put name (.tables [[]]) members)
  | some (.tables items) => some (put name (.tables (items ++ [[]])) members)
  | some _ => none

end Toml
end TreeShell
