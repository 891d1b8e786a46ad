import Mathlib.Tactic.SplitIfs
import TreeShell.Disk.Disk

/-! Reading back what was written. Putting a file in a place leaves what is anywhere else
as it was, except that the directories on the way list it, so a path is followed through
the same names and links after a write as before it and ends at the new file. -/

namespace TreeShell

namespace Item

private theorem lookup_putEntry_self (name : String) (item : Item) (entries : List (String × Item)) :
    (putEntry name item entries).lookup name = some item := by
  induction entries with
  | nil => simp [putEntry]
  | cons entry rest ih =>
    obtain ⟨key, other⟩ := entry
    rw [putEntry]
    split_ifs with before same
    · exact List.lookup_cons_self
    · exact List.lookup_cons_self
    · rw [List.lookup_cons, Bool.eq_false_iff.mpr same]
      exact ih

private theorem lookup_putEntry_of_ne {name other : String} (different : other ≠ name) (item : Item)
    (entries : List (String × Item)) :
    (putEntry name item entries).lookup other = entries.lookup other := by
  have skip (found : Item) (rest : List (String × Item)) :
      ((name, found) :: rest).lookup other = rest.lookup other := by
    rw [List.lookup_cons, beq_false_of_ne different]
  induction entries with
  | nil => exact skip item []
  | cons entry rest ih =>
    obtain ⟨key, found⟩ := entry
    rw [putEntry]
    split_ifs with before same
    · exact skip item _
    · cases eq_of_beq same
      exact (skip item rest).trans (skip found rest).symm
    · rw [List.lookup_cons, List.lookup_cons, ih]

private theorem entry?_put_self (replacement : Item) (name : String) (rest : List String) (item : Item) :
    entry? (put replacement (name :: rest) item) name =
      some (put replacement rest ((item.entry? name).getD (.directory []))) :=
  lookup_putEntry_self _ _ _

private theorem entry?_put_of_ne (replacement : Item) {name other : String} (different : other ≠ name)
    (rest : List String) (item : Item) :
    entry? (put replacement (name :: rest) item) other = item.entry? other :=
  lookup_putEntry_of_ne different _ _

private theorem find?_place_put (replacement : Item) (place : List String) (item : Item) :
    (put replacement place item).find? place = some replacement := by
  induction place generalizing item with
  | nil => rfl
  | cons name rest ih =>
    rw [find?, entry?_put_self]
    exact ih _

private theorem find?_concat (item : Item) (place : List String) (name : String) :
    item.find? (place ++ [name]) = (item.find? place).bind fun found => found.entry? name := by
  induction place generalizing item with
  | nil =>
    simp only [List.nil_append, find?, Option.bind_some]
    cases item.entry? name <;> rfl
  | cons first rest ih =>
    simp only [List.cons_append, find?]
    cases item.entry? first with
    | none => rfl
    | some next => exact ih next

/-- A file can be put in a place: one is there, or its name is free in a directory. -/
inductive Writable : Item → List String → Prop
  | file (bytes : List UInt8) (mode : Nat) : Writable (.file bytes mode) []
  | free {item : Item} {name : String} (directory : item.isDirectory)
      (missing : item.entry? name = none) : Writable item [name]
  | inside {item next : Item} {name : String} {rest : List String}
      (found : item.entry? name = some next) (writable : Writable next rest) :
      Writable item (name :: rest)

private theorem writable_of_file {place : List String} {item : Item} {bytes : List UInt8} {mode : Nat}
    (found : item.find? place = some (.file bytes mode)) : Writable item place := by
  induction place generalizing item with
  | nil =>
    cases Option.some.inj found
    exact .file bytes mode
  | cons name rest ih =>
    rw [find?] at found
    split at found
    · cases found
    · rename_i next entry
      exact .inside entry (ih found)

private theorem writable_of_free {place : List String} {item directory : Item} {name : String}
    (found : item.find? place = some directory) (isDirectory : directory.isDirectory)
    (missing : directory.entry? name = none) : Writable item (place ++ [name]) := by
  induction place generalizing item with
  | nil =>
    cases Option.some.inj found
    exact .free isDirectory missing
  | cons first rest ih =>
    rw [find?] at found
    split at found
    · cases found
    · rename_i next entry
      exact .inside entry (ih found)

/-- A walk along names treats the two the same way: it goes into directories, stops at
files and turns off at links. -/
inductive Alike : Item → Item → Prop
  | directory (before after : List (String × Item)) : Alike (.directory before) (.directory after)
  | file (bytes : List UInt8) (mode : Nat) (newBytes : List UInt8) (newMode : Nat) :
      Alike (.file bytes mode) (.file newBytes newMode)
  | link (target : String) : Alike (.link target) (.link target)

theorem Alike.refl (item : Item) : Alike item item := by
  cases item with
  | directory entries => exact .directory entries entries
  | file bytes mode => exact .file bytes mode bytes mode
  | link target => exact .link target

theorem alike_put {item : Item} (directory : item.isDirectory) (replacement : Item) (name : String)
    (rest : List String) : Alike item (put replacement (name :: rest) item) := by
  cases item with
  | directory entries => exact .directory _ _
  | file bytes mode => cases directory
  | link target => cases directory

private theorem isDirectory_of_found {item next : Item} {name : String}
    (found : item.entry? name = some next) : item.isDirectory := by
  cases item with
  | directory entries => rfl
  | file bytes mode => cases found
  | link target => cases found

theorem Writable.find?_put {item there : Item} {place other : List String}
    (writable : Writable item place) (bytes : List UInt8) (mode : Nat)
    (found : item.find? other = some there) :
    ∃ after, (put (.file bytes mode) place item).find? other = some after ∧ Alike there after := by
  -- Off the way to the written place nothing changes, and the way itself leads through
  -- directories before and after.
  induction writable generalizing other with
  | file old oldMode =>
    cases other with
    | nil =>
      cases Option.some.inj found
      exact ⟨_, rfl, .file old oldMode bytes mode⟩
    | cons first rest => cases found
  | @free item name directory missing =>
    cases other with
    | nil =>
      cases Option.some.inj found
      exact ⟨_, rfl, alike_put directory _ _ _⟩
    | cons first rest =>
      have elsewhere : first ≠ name := by
        intro same
        rw [same, find?, missing] at found
        cases found
      rw [find?, entry?_put_of_ne _ elsewhere]
      exact ⟨there, found, .refl there⟩
  | @inside item next name below entry writable ih =>
    cases other with
    | nil =>
      cases Option.some.inj found
      exact ⟨_, rfl, alike_put (isDirectory_of_found entry) _ _ _⟩
    | cons first rest =>
      by_cases here : first = name
      · subst here
        rw [find?, entry] at found
        rw [find?, entry?_put_self, entry]
        exact ih found
      · rw [find?, entry?_put_of_ne _ here]
        exact ⟨there, found, .refl there⟩

end Item

namespace Place

def names : Place → List String
  | .item place _ => place
  | .free place => place

def Holds (root : Item) : Place → Prop
  | .item place found => root.find? place = some found
  | .free place => root.Writable place

end Place

namespace Disk

variable {disk : Disk} {purpose : Purpose} {start names : List String} {ending : Place}

/-- The step of a walk to an entry of the directory at `place`. -/
def enter (disk : Disk) (purpose : Purpose) (place : List String) (name : String)
    (rest : List String) : Advance :=
  match disk.root.find? (place ++ [name]) with
  | none => if rest.isEmpty then .arrived (.free (place ++ [name])) else .refused .notFound
  | some (.link target) =>
    if purpose.keeps rest then .arrived (.item (place ++ [name]) (.link target))
    else .link place target rest
  | some _ => disk.advance purpose (place ++ [name]) rest

private theorem advance_cons {entries : List (String × Item)} {name : String} {rest : List String}
    (found : disk.root.find? start = some (.directory entries)) :
    disk.advance purpose start (name :: rest) =
      if name == "." || name == closing then disk.advance purpose start rest
      else if name == ".." then disk.advance purpose start.dropLast rest
      else if purpose.refuses rest then .refused .isDirectory
      else if 255 < name.utf8ByteSize then .refused .nameTooLong
      else disk.enter purpose start name rest := by
  have entry : disk.root.find? (start ++ [name]) = entries.lookup name := by
    rw [Item.find?_concat, found]
    rfl
  rw [advance, found]
  simp only [← entry]
  rfl

private theorem directory_of_advance_cons {name : String} {rest : List String} {result : Advance}
    (walked : disk.advance purpose start (name :: rest) = result) (going : ∀ error, result ≠ .refused error) :
    ∃ entries, disk.root.find? start = some (.directory entries) := by
  rw [advance] at walked
  split at walked
  · rename_i entries found
    exact ⟨entries, found⟩
  · exact absurd walked.symm (going _)
  · exact absurd walked.symm (going _)

private theorem advance_holds (arrived : disk.advance purpose start names = .arrived ending) :
    ending.Holds disk.root := by
  induction names generalizing start with
  | nil =>
    rw [advance] at arrived
    split at arrived
    · rename_i item found
      cases arrived
      exact found
    · cases arrived
  | cons name rest ih =>
    obtain ⟨entries, found⟩ := directory_of_advance_cons arrived (by simp)
    rw [advance_cons found] at arrived
    split_ifs at arrived with here up
    · exact ih arrived
    · exact ih arrived
    · unfold enter at arrived
      split at arrived
      · rename_i missing
        split at arrived
        · cases arrived
          refine Item.writable_of_free found rfl ?_
          rwa [Item.find?_concat, found] at missing
        · cases arrived
      · rename_i target link
        split at arrived
        · cases arrived
          exact link
        · cases arrived
      · exact ih arrived

private theorem travel_holds {links : Nat} (arrived : disk.travel purpose links start names = .ok ending) :
    ending.Holds disk.root := by
  fun_induction travel disk purpose links start names with
  | case1 links start names place reached =>
    cases arrived
    exact advance_holds reached
  | case2 | case3 | case4 => cases arrived
  | case5 start names directory target rest reached links present ih => exact ih arrived

def Advance.HeadsFor (place : List String) : Advance → Prop
  | .arrived ending => ending.names = place
  | .refused _ => False
  | .link .. => True

/-- A walk that ends at a file that was put where it ended. -/
def Advance.endingAt (file : Item) : Advance → Advance
  | .arrived ending => .arrived (.item ending.names file)
  | other => other

section Writing

variable {place : List String} (writable : disk.root.Writable place) (bytes : List UInt8) (mode : Nat)

include writable

theorem find?_put {there : Item} (found : disk.root.find? start = some there) :
    ∃ after, (disk.put place (.file bytes mode)).root.find? start = some after ∧ there.Alike after :=
  writable.find?_put bytes mode found

private theorem enter_put {name : String} {rest : List String}
    (onward : (disk.advance .create (start ++ [name]) rest).HeadsFor place →
      (disk.put place (.file bytes mode)).advance .reach (start ++ [name]) rest =
        (disk.advance .create (start ++ [name]) rest).endingAt (.file bytes mode))
    (heads : (disk.enter .create start name rest).HeadsFor place) :
    (disk.put place (.file bytes mode)).enter .reach start name rest =
      (disk.enter .create start name rest).endingAt (.file bytes mode) := by
  unfold enter at heads ⊢
  cases there : disk.root.find? (start ++ [name]) with
  | none =>
    rw [there] at heads
    cases rest with
    | cons next others => exact heads.elim
    | nil =>
      have here : start ++ [name] = place := heads
      subst here
      have written : (disk.put (start ++ [name]) (.file bytes mode)).root.find? (start ++ [name]) =
          some (.file bytes mode) := Item.find?_place_put _ _ _
      rw [written]
      simp only
      rw [advance, written]
      rfl
  | some item =>
    obtain ⟨after, still, alike⟩ := find?_put writable bytes mode there
    rw [there] at heads
    rw [still]
    cases alike with
    | directory => exact onward heads
    | file => exact onward heads
    | link target => rfl

/-- A walk that was to make the file now reaches it, and one that came to a link still
comes to that link. -/
theorem advance_put (heads : (disk.advance .create start names).HeadsFor place) :
    (disk.put place (.file bytes mode)).advance .reach start names =
      (disk.advance .create start names).endingAt (.file bytes mode) := by
  induction names generalizing start with
  | nil =>
    cases found : disk.root.find? start with
    | none =>
      rw [advance, found] at heads
      exact heads.elim
    | some there =>
      rw [advance, found] at heads
      have here : start = place := heads
      subst here
      have written : (disk.put start (.file bytes mode)).root.find? start = some (.file bytes mode) :=
        Item.find?_place_put _ _ _
      rw [advance, advance, found, written]
      rfl
  | cons name rest ih =>
    obtain ⟨entries, found⟩ := directory_of_advance_cons rfl (by
      intro error refused
      rw [refused] at heads
      exact heads)
    obtain ⟨_, after, ⟨_, listed⟩⟩ := find?_put writable bytes mode found
    rw [advance_cons found] at heads ⊢
    rw [advance_cons after]
    by_cases here : name == "." || name == closing
    · rw [if_pos here] at heads ⊢
      rw [if_pos here]
      exact ih heads
    by_cases up : name == ".."
    · rw [if_neg here, if_pos up] at heads ⊢
      rw [if_neg here, if_pos up]
      exact ih heads
    rw [if_neg here, if_neg up] at heads ⊢
    rw [if_neg here, if_neg up]
    rw [if_neg (by simp [Purpose.refuses])]
    split_ifs at heads ⊢
    · exact heads.elim
    · exact heads.elim
    · exact heads.elim
    · exact enter_put writable bytes mode ih heads

theorem travel_put {links : Nat} (arrived : disk.travel .create links start names = .ok ending)
    (here : ending.names = place) :
    (disk.put place (.file bytes mode)).travel .reach links start names =
      .ok (.item place (.file bytes mode)) := by
  fun_induction travel disk .create links start names with
  | case1 links start names place reached =>
    cases arrived
    have heads : (disk.advance .create start names).HeadsFor place := by
      rw [reached]
      exact here
    rw [travel, advance_put writable bytes mode heads, reached, ← here]
    rfl
  | case2 | case3 | case4 => cases arrived
  | case5 start names directory target rest reached links present ih =>
    -- The same link is met in the new disk, and what is left of the way is shorter by it.
    have heads : (disk.advance .create start names).HeadsFor place := by
      rw [reached]
      trivial
    rw [travel, advance_put writable bytes mode heads, reached]
    simp only [Advance.endingAt]
    rw [if_neg present]
    exact ih arrived

theorem resolve_put {path : DiskPath} (resolved : disk.resolve .create path = .ok ending)
    (here : ending.names = place) :
    (disk.put place (.file bytes mode)).resolve .reach path = .ok (.item place (.file bytes mode)) := by
  unfold resolve at resolved ⊢
  split_ifs at resolved ⊢
  exact travel_put writable bytes mode resolved here

end Writing

theorem resolve_holds {path : DiskPath} (resolved : disk.resolve purpose path = .ok ending) :
    ending.Holds disk.root := by
  unfold resolve at resolved
  split_ifs at resolved
  exact travel_holds resolved

theorem read_put {place : List String} (writable : disk.root.Writable place) (bytes : List UInt8)
    (mode : Nat) {path : DiskPath} (resolved : disk.resolve .create path = .ok ending)
    (here : ending.names = place) : (disk.put place (.file bytes mode)).read path = .ok bytes := by
  rw [read, locate, resolve_put writable bytes mode resolved here]

/-- What is written to a file is what is read from it then. -/
theorem read_write {after : Disk} {path : DiskPath} {bytes : List UInt8}
    (written : disk.write path bytes = .ok after) : after.read path = .ok bytes := by
  rw [write, modify] at written
  split at written
  · rename_i place old mode resolved
    cases written
    have holds := resolve_holds resolved
    exact read_put (Item.writable_of_file holds) bytes mode resolved rfl
  · cases written
  · rename_i place resolved
    cases written
    have holds := resolve_holds resolved
    exact read_put holds bytes newFileMode resolved rfl
  · cases written

end Disk
end TreeShell
