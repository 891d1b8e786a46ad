/-! The lines submitted in a session, and a cursor that recalls them. The cursor
stands past the newest line after every submission. -/

namespace TreeShell

structure History where
  entries : List String
  cursor : Nat
deriving DecidableEq, Repr

inductive Recall where
  | unchanged
  | replace (line : String)
  | clear
deriving DecidableEq, Repr

namespace History

def empty : History := ⟨[], 0⟩

def record (history : History) (line : String) : History :=
  ⟨history.entries ++ [line], history.entries.length + 1⟩

def previous (history : History) : History × Recall :=
  match history.cursor with
  | 0 => (history, .unchanged)
  | cursor + 1 =>
    ({ history with cursor }, match history.entries[cursor]? with
      | some line => .replace line
      | none => .unchanged)

def next (history : History) : History × Recall :=
  match history.entries[history.cursor + 1]? with
  | some line => ({ history with cursor := history.cursor + 1 }, .replace line)
  | none => ({ history with cursor := history.entries.length }, .clear)

end History
end TreeShell
