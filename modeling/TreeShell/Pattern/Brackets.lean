import TreeShell.Pattern.Atom

/-! Sets of characters between brackets, which may hold other sets and be combined by
doubled signs. A reader answers how deep a set nests, with the text after it. -/

namespace TreeShell.Pattern

/-- How deep parts nest that stand side by side. A single one needs nothing around it. -/
def depthOf : List Nat → Nat
  | [] => 0
  | [depth] => depth
  | depths => depths.foldl max 0 + 1

def depthAfter (left : Option Nat) (right : Nat) : Nat :=
  match left with
  | none => right
  | some left => max left right + 1

def setNames : List String :=
  ["alnum", "alpha", "ascii", "blank", "cntrl", "digit", "graph", "lower", "print", "punct",
    "space", "upper", "word", "xdigit"]

/-- A named set after its opening bracket: whether all other characters are meant, and the
text after it. -/
def readNamed : List Char → Option (Bool × List Char)
  | ':' :: rest =>
    let (others, rest) := match rest with
      | '^' :: rest => (true, rest)
      | rest => (false, rest)
    let name := rest.takeWhile (· != ':')
    match rest.dropWhile (· != ':') with
    | ':' :: ']' :: rest =>
      if setNames.contains (String.ofList name) then some (others, rest) else none
    | _ => none
  | _ => none

namespace Mode

/-- Whether a set can be matched that leaves out what is named in it. Without characters
it would have bytes in it that spell none. -/
def allowsOthers (mode : Mode) (others : Bool) : Bool :=
  mode.characters || !others

def allowsNamed (mode : Mode) (others : Bool) : Bool :=
  if mode.characters then !mode.anyCase else !others

def readBracketed (mode : Mode) : List Char → Option (Atom × List Char)
  | [] => none
  | '\\' :: rest => readEscape mode rest
  | character :: rest => some (.character character false, rest)

/-- The text after one atom between brackets, or after a range between two characters. A
hyphen before another or before the closing bracket makes no range. -/
def skipRange (mode : Mode) (text : List Char) : Option (List Char) :=
  (mode.readBracketed text).bind fun (first, rest) =>
    let alone := fun rest => if mode.allowsInBrackets first then some rest else none
    match mode.skip rest with
    | '-' :: rest =>
      if [some ']', some '-'].contains (mode.afterHyphen rest) then alone ('-' :: rest)
      else match first, mode.readBracketed (mode.skip rest) with
        | .character low _, some (.character high byte, rest) =>
          if low ≤ high && mode.allowsInBrackets first &&
              mode.allowsInBrackets (.character high byte) then some rest
          else none
        | _, _ => none
    | rest => alone rest

/-- The text after an opening bracket, and after the sign that leaves out what follows. -/
def openSet (mode : Mode) (text : List Char) : Option (List Char) :=
  match mode.skip text with
  | '^' :: rest => if mode.allowsOthers true then some rest else none
  | rest => some rest

end Mode

structure SetDraft where
  /-- How deep the operand before a doubled sign nests. -/
  left : Option Nat
  /-- How deep each item since then nests. -/
  items : List Nat
  /-- Whether the set has just been opened, where hyphens and a closing bracket stand for
  themselves. -/
  fresh : Bool

namespace SetDraft

def opened : SetDraft := ⟨none, [], true⟩

def push (draft : SetDraft) (depth : Nat) : SetDraft :=
  { draft with items := depth :: draft.items, fresh := false }

def combine (draft : SetDraft) : SetDraft :=
  ⟨some (depthAfter draft.left (depthOf draft.items)), [], false⟩

def depth (draft : SetDraft) : Nat :=
  depthAfter draft.left (depthOf draft.items) + 1

end SetDraft

def readSet (mode : Mode) : Nat → SetDraft → List Char → Option (Nat × List Char)
  | 0, _, _ => none
  | limit + 1, draft, text =>
    let itself := fun character (draft : SetDraft) rest =>
      if mode.allowsInBrackets (.character character false) then readSet mode limit draft rest
      else none
    match mode.skip text with
    | [] => none
    | '[' :: rest =>
      match readNamed rest with
      | some (others, rest) =>
        if mode.allowsNamed others then readSet mode limit (draft.push 0) rest else none
      | none => do
        let rest ← mode.openSet rest
        let (depth, rest) ← readSet mode limit .opened rest
        readSet mode limit (draft.push depth) rest
    | ']' :: rest =>
      if draft.fresh && draft.items.isEmpty then itself ']' (draft.push 0) rest
      else some (draft.depth, rest)
    | '&' :: '&' :: rest => readSet mode limit draft.combine rest
    | '~' :: '~' :: rest => readSet mode limit draft.combine rest
    | '-' :: rest =>
      if draft.fresh then itself '-' { draft.push 0 with fresh := true } rest
      else if rest.head? == some '-' then readSet mode limit draft.combine (rest.drop 1)
      else (mode.skipRange ('-' :: rest)).bind (readSet mode limit (draft.push 0))
    | text => (mode.skipRange text).bind (readSet mode limit (draft.push 0))

end TreeShell.Pattern
