import TreeShell.Disk.Disk

/-! Walks through a directory. A walk meets parents before children and siblings by
name; names that are ignored are passed over together with all below them. -/

namespace TreeShell

structure WalkRules where
  followLinks : Bool
  ignore : List String
  maxDepth : Option Nat
deriving DecidableEq, Repr

namespace WalkRules

def standard : WalkRules := ⟨false, [".DS_Store", ".git"], none⟩

def ignores (rules : WalkRules) (name : String) : Bool :=
  rules.ignore.contains name

/-- Whether entries at a depth are met. The entries of the source itself always are. -/
def reaches (rules : WalkRules) (depth : Nat) : Bool :=
  match rules.maxDepth with
  | none => true
  | some bound => depth ≤ max 1 bound

end WalkRules

/-- Something met: the names that lead to it from the source, and what it is. -/
structure Encounter where
  names : List String
  item : Item

inductive WalkError where
  | disk (error : DiskError)
  | loop (names : List String)
deriving DecidableEq

namespace Walk

/-- A directory in a walk: the names that lead to it from the source, its place on the
disk, and the places of the directories around it, itself included. -/
structure Spot where
  names : List String
  place : List String
  around : List (List String)

def Spot.below (spot : Spot) (name : String) : Spot :=
  ⟨spot.names ++ [name], spot.place ++ [name], (spot.place ++ [name]) :: spot.around⟩

/-- What is met at a name, and behind it, unless the name is ignored. -/
def unlessIgnored (rules : WalkRules) (name : String) (met : List (Except WalkError Encounter)) :
    List (Except WalkError Encounter) :=
  if rules.ignores name then [] else met

mutual
def item (rules : WalkRules) (cross : Spot → String → List (Except WalkError Encounter))
    (spot : Spot) (name : String) : Item → List (Except WalkError Encounter)
  | .directory inside =>
    unlessIgnored rules name
      (.ok ⟨spot.names ++ [name], .directory inside⟩ ::
        if rules.reaches (spot.names.length + 2) then
          entries rules cross (spot.below name) inside
        else [])
  | .file bytes mode => unlessIgnored rules name [.ok ⟨spot.names ++ [name], .file bytes mode⟩]
  | .link target =>
    if rules.followLinks then cross spot name
    else unlessIgnored rules name [.ok ⟨spot.names ++ [name], .link target⟩]

def entries (rules : WalkRules) (cross : Spot → String → List (Except WalkError Encounter))
    (spot : Spot) : List (String × Item) → List (Except WalkError Encounter)
  | [] => []
  | (name, met) :: rest => item rules cross spot name met ++ entries rules cross spot rest
end

/-- Walk on behind a link to a directory, through at most `links` more of them. A link
to a directory that the walk is already in would never end and is an error, even where
its name is ignored. -/
def cross (disk : Disk) (rules : WalkRules) (source : List String) :
    Nat → Spot → String → List (Except WalkError Encounter)
  | 0, _, _ => []
  | links + 1, spot, name =>
    let names := spot.names ++ [name]
    match disk.travel .reach Disk.linkLimit [] (source ++ names) with
    | .error error => [.error (.disk error)]
    | .ok (.free _) => [.error (.disk .notFound)]
    | .ok (.item place (.directory inside)) =>
      if spot.around.contains place then [.error (.loop names)]
      else unlessIgnored rules name
        (.ok ⟨names, .directory inside⟩ ::
          if rules.reaches (names.length + 1) then
            entries rules (cross disk rules source links)
              ⟨names, place, place :: spot.around⟩ inside
          else [])
    | .ok (.item _ met) => unlessIgnored rules name [.ok ⟨names, met⟩]

end Walk

mutual
def Item.directories : Item → Nat
  | .directory entries => 1 + Item.directoriesIn entries
  | _ => 0

def Item.directoriesIn : List (String × Item) → Nat
  | [] => 0
  | (_, item) :: rest => item.directories + Item.directoriesIn rest
end

/-- Everything met below a directory of the disk. Each crossed link enters a directory
that the walk is not in, so the directories of the disk bound the links in a row. -/
def Disk.walk (disk : Disk) (rules : WalkRules) (source : List String)
    (entries : List (String × Item)) : List (Except WalkError Encounter) :=
  Walk.entries rules (Walk.cross disk rules source disk.root.directories) ⟨[], source, [source]⟩
    entries

end TreeShell
