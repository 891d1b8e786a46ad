import TreeShell.Disk.DiskError
import TreeShell.Disk.DiskPath
import TreeShell.Disk.Item

/-! The disk as the program sees it: every item, and the directory that relative paths
start from. Paths are followed through symbolic links as the system follows them. -/

namespace TreeShell

structure Disk where
  root : Item
  /-- The names from the root to the working directory. -/
  workingDirectory : List String

/-- Where a path leads: to an item, or to a free name in a directory. -/
inductive Place where
  | item (place : List String) (item : Item)
  | free (place : List String)

/-- What a path is followed for, which tells what its last name means. -/
inductive Purpose where
  /-- To reach an item, through a link in the last name too. -/
  | reach
  /-- To name an entry, which may be a link itself. -/
  | entry
  /-- To open a file that is made if it is missing, which cannot be asked of a name that a
  separator closes. -/
  | create
deriving DecidableEq, Repr

/-- The step that a closing separator stands for: into the directory that it closes. -/
def closing : String := ""

namespace Purpose

/-- Whether a name with these steps after it is refused before it is looked up. -/
def refuses (purpose : Purpose) (rest : List String) : Bool :=
  purpose == .create && rest == [closing]

def keeps (purpose : Purpose) (rest : List String) : Bool :=
  purpose == .entry && rest.isEmpty

end Purpose

namespace Disk

/-- How far a walk along names gets before the next link. -/
inductive Advance where
  | arrived (place : Place)
  | refused (error : DiskError)
  | link (directory : List String) (target : String) (rest : List String)

def advance (disk : Disk) (purpose : Purpose) (place : List String) : List String → Advance
  | [] =>
    match disk.root.find? place with
    | some item => .arrived (.item place item)
    | none => .refused .notFound
  | name :: rest =>
    match disk.root.find? place with
    | some (.directory entries) =>
      if name == "." || name == closing then disk.advance purpose place rest
      else if name == ".." then disk.advance purpose place.dropLast rest
      else if purpose.refuses rest then .refused .isDirectory
      else if 255 < name.utf8ByteSize then .refused .nameTooLong
      else match entries.lookup name with
        | none => if rest.isEmpty then .arrived (.free (place ++ [name])) else .refused .notFound
        | some (.link target) =>
          if purpose.keeps rest then .arrived (.item (place ++ [name]) (.link target))
          else .link place target rest
        | some _ => disk.advance purpose (place ++ [name]) rest
    | some _ => .refused .notDirectory
    | none => .refused .notFound

def steps (path : DiskPath) : List String :=
  path.pieces ++ if path.toList.getLast? == some '/' then [closing] else []

def origin (directory : List String) (path : DiskPath) : List String :=
  if path.isAbsolute then [] else directory

/-- Walk along names and through at most `links` links. -/
def travel (disk : Disk) (purpose : Purpose) :
    Nat → List String → List String → Except DiskError Place
  | links, place, names =>
    match disk.advance purpose place names with
    | .arrived place => .ok place
    | .refused error => .error error
    | .link directory target rest =>
      match links with
      | 0 => .error .tooManyLinks
      | links + 1 =>
        if target == "" then .error .notFound
        else disk.travel purpose links (origin directory target) (steps target ++ rest)

def linkLimit : Nat := 40

def resolve (disk : Disk) (purpose : Purpose) (path : DiskPath) : Except DiskError Place :=
  if path.toList.contains '\x00' then .error .nulInPath
  else if path == "" then .error .notFound
  else if 4095 < path.utf8ByteSize then .error .nameTooLong
  else disk.travel purpose linkLimit (origin disk.workingDirectory path) (steps path)

/-- The item that a path leads to, and the names from the root to it. -/
def locate (disk : Disk) (path : DiskPath) : Except DiskError (List String × Item) :=
  match disk.resolve .reach path with
  | .ok (.item place item) => .ok (place, item)
  | .ok (.free _) => .error .notFound
  | .error error => .error error

def isDirectory (disk : Disk) (path : DiskPath) : Bool :=
  match disk.locate path with
  | .ok (_, item) => item.isDirectory
  | .error _ => false

def isFile (disk : Disk) (path : DiskPath) : Bool :=
  match disk.locate path with
  | .ok (_, .file ..) => true
  | _ => false

def read (disk : Disk) (path : DiskPath) : Except DiskError (List UInt8) :=
  match disk.locate path with
  | .ok (_, .file bytes _) => .ok bytes
  | .ok _ => .error .isDirectory
  | .error error => .error error

def put (disk : Disk) (place : List String) (item : Item) : Disk :=
  { disk with root := Item.put item place disk.root }

def newFileMode : Nat := 0o644

def modify (disk : Disk) (path : DiskPath) (change : List UInt8 → List UInt8) :
    Except DiskError Disk :=
  match disk.resolve .create path with
  | .ok (.item place (.file bytes mode)) => .ok (disk.put place (.file (change bytes) mode))
  | .ok (.item _ _) => .error .isDirectory
  | .ok (.free place) => .ok (disk.put place (.file (change []) newFileMode))
  | .error error => .error error

/-- Give a file new content, whatever it held. -/
def write (disk : Disk) (path : DiskPath) (bytes : List UInt8) : Except DiskError Disk :=
  disk.modify path fun _ => bytes

def makeDirectory (disk : Disk) (path : DiskPath) : Except DiskError Disk :=
  match disk.resolve .entry path.trimSeparators with
  | .ok (.item _ _) => .error .exists
  | .ok (.free place) => .ok (disk.put place (.directory []))
  | .error error => .error error

/-- Make a directory and those on the way to it, as many steps up as `levels` allows. A
directory that is there already is no error. -/
def makeDirectoriesWithin (disk : Disk) : Nat → DiskPath → Except DiskError Disk
  | 0, _ => .error .notFound
  | levels + 1, path =>
    if path == "" then .ok disk
    else match disk.makeDirectory path with
      | .ok made => .ok made
      | .error .notFound =>
        match path.parent? with
        | none => .error .notFound
        | some parent =>
          match disk.makeDirectoriesWithin levels parent with
          | .error error => .error error
          | .ok made =>
            match made.makeDirectory path with
            | .ok made => .ok made
            | .error error => if made.isDirectory path then .ok made else .error error
      | .error error => if disk.isDirectory path then .ok disk else .error error

def makeDirectories (disk : Disk) (path : DiskPath) : Except DiskError Disk :=
  disk.makeDirectoriesWithin (path.components.length + 1) path

end Disk
end TreeShell
