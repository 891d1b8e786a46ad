import TreeShell.Pattern.Brackets
import TreeShell.Text.Alphanumeric

/-! Whether a text is a pattern that can be matched. A pattern is read in one pass, with the
mode that it has come to, up to the end of each group. Counts in braces are never complete
here: braces end the values that patterns come from. -/

namespace TreeShell

inductive PatternFault where
  | malformed
  /-- Edges of words are asked for among characters, not bytes. -/
  | wordEdge
deriving DecidableEq, Repr

namespace Pattern

/-- A group, or the whole pattern, as far as it has been read. -/
structure Draft where
  mode : Mode
  /-- The names of groups so far, inside and before. -/
  names : List (List Char)
  /-- Whether an edge of words among characters was asked for. -/
  wordEdge : Bool
  /-- How deep each branch so far nests. -/
  branches : List Nat
  /-- How deep each part of the branch nests, the last one first. -/
  parts : List Nat
  /-- Whether the last part can be repeated. -/
  repeatable : Bool

namespace Draft

def start : Draft := ⟨.standard, [], false, [], [], false⟩

def push (draft : Draft) (depth : Nat) : Draft :=
  { draft with parts := depth :: draft.parts, repeatable := true }

/-- The draft after a change of the mode, which cannot be repeated. -/
def change (draft : Draft) (mode : Mode) : Draft :=
  { draft with mode, parts := 0 :: draft.parts, repeatable := false }

def nextBranch (draft : Draft) : Draft :=
  { draft with branches := depthOf draft.parts :: draft.branches, parts := [], repeatable := false }

def depth (draft : Draft) : Nat :=
  depthOf draft.nextBranch.branches

def inside (draft : Draft) (mode : Mode) (name : Option (List Char)) : Draft :=
  ⟨mode, name.toList ++ draft.names, draft.wordEdge, [], [], false⟩

def close (draft inner : Draft) : Draft :=
  { draft.push (inner.depth + 1) with names := inner.names, wordEdge := inner.wordEdge }

def repeatLast? (draft : Draft) : Option Draft :=
  match draft.repeatable, draft.parts with
  | true, depth :: parts => some { draft with parts := (depth + 1) :: parts }
  | _, _ => none

def pushAtom? (draft : Draft) (atom : Atom) : Option Draft :=
  if draft.mode.allows atom then
    some { draft.push 0 with
      wordEdge := draft.wordEdge || (atom == .wordEdge && draft.mode.characters) }
  else none

end Draft

inductive Opening where
  | change (mode : Mode)
  | group (mode : Mode) (name : Option (List Char))

def startsName (character : Char) : Bool :=
  character == '_' || Text.isAlphabetic character

def continuesName (character : Char) : Bool :=
  ['_', '.', '[', ']'].contains character || Text.isAlphanumeric character

def readName (names : List (List Char)) (text : List Char) :
    Option (List Char × List Char) :=
  let name := text.takeWhile (· != '>')
  match text.dropWhile (· != '>') with
  | [] => none
  | _ :: rest =>
    if name.head?.any startsName && name.all continuesName && !names.contains name then
      some (name, rest)
    else none

def readOpening (draft : Draft) (text : List Char) : Option (Opening × List Char) :=
  let named := fun rest =>
    (readName draft.names rest).map fun (name, rest) => (.group draft.mode (some name), rest)
  match draft.mode.skip text with
  | '?' :: 'P' :: '<' :: rest => named rest
  | '?' :: '<' :: rest => named rest
  | '?' :: rest =>
    match Mode.readFlags [] draft.mode rest with
    | some (mode, ')' :: rest) => some (.change mode, rest)
    | some (mode, _ :: rest) => some (.group mode none, rest)
    | _ => none
  | rest => some (.group draft.mode none, rest)

/-- The rest of a group, in at most `limit` steps, with the text from its end on. -/
def read : Nat → Draft → List Char → Option (Draft × List Char)
  | 0, _, _ => none
  | limit + 1, draft, text =>
    match draft.mode.skip text with
    | [] => some (draft, [])
    | ')' :: rest => some (draft, ')' :: rest)
    | '(' :: rest =>
      match readOpening draft rest with
      | none => none
      | some (.change mode, rest) => read limit (draft.change mode) rest
      | some (.group mode name, rest) =>
        match read limit (draft.inside mode name) rest with
        | some (inner, ')' :: rest) => read limit (draft.close inner) rest
        | _ => none
    | '[' :: rest => do
      let rest ← draft.mode.openSet rest
      let (depth, rest) ← readSet draft.mode rest.length .opened rest
      read limit (draft.push depth) rest
    | '|' :: rest => read limit draft.nextBranch rest
    | '\x7b' :: _ => none
    | '\\' :: rest => do
      let (atom, rest) ← readEscape draft.mode rest
      read limit (← draft.pushAtom? atom) rest
    | '.' :: rest => if draft.mode.characters then read limit (draft.push 0) rest else none
    | character :: rest =>
      if ['?', '*', '+'].contains character then do
        let draft ← draft.repeatLast?
        read limit draft (if rest.head? == some '?' then rest.drop 1 else rest)
      else if ['^', '$'].contains character then read limit (draft.push 0) rest
      else do read limit (← draft.pushAtom? (.character character false)) rest

def depthLimit : Nat := 250

/-- What is wrong with a pattern, if anything is. -/
def check (text : List Char) : Except PatternFault Unit :=
  match read (text.length + 1) .start text with
  | some (draft, []) =>
    if depthLimit < draft.depth then .error .malformed
    else if draft.wordEdge then .error .wordEdge
    else .ok ()
  | _ => .error .malformed

end Pattern
end TreeShell
