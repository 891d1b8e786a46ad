/-! What the disk holds: directories, regular files and symbolic links. A directory
keeps its entries under ascending names. -/

namespace TreeShell

inductive Item where
  | directory (entries : List (String × Item))
  | file (bytes : List UInt8) (mode : Nat)
  | link (target : String)

namespace Item

def isDirectory : Item → Bool
  | .directory _ => true
  | _ => false

def entries : Item → List (String × Item)
  | .directory entries => entries
  | _ => []

def entry? (item : Item) (name : String) : Option Item :=
  item.entries.lookup name

/-- The item reached by stepping down through the named entries, links not followed. -/
def find? (item : Item) : List String → Option Item
  | [] => some item
  | name :: rest =>
    match item.entry? name with
    | none => none
    | some next => next.find? rest

def putEntry (name : String) (item : Item) : List (String × Item) → List (String × Item)
  | [] => [(name, item)]
  | (key, other) :: rest =>
    if name < key then (name, item) :: (key, other) :: rest
    else if name == key then (name, item) :: rest
    else (key, other) :: putEntry name item rest

def put (replacement : Item) : List String → Item → Item
  | [], _ => replacement
  | name :: rest, item =>
    .directory (putEntry name
      (put replacement rest ((item.entry? name).getD (.directory []))) item.entries)

def remove : List String → Item → Item
  | [], item => item
  | [name], item => .directory (item.entries.filter (·.1 != name))
  | name :: rest, item =>
    match item.entry? name with
    | none => item
    | some next => .directory (putEntry name (remove rest next) item.entries)

def executableBits : Nat := 0o111

end Item
end TreeShell
