import TreeShell.Shell.Session

/-! Lines that are known beforehand, answered in turn until one of them ends the
session. -/

namespace TreeShell

def Session.submitLines (slot : Slot) (session : Session) :
    List String → Session × List Signal
  | [] => (session, [])
  | line :: rest =>
    let (next, said) := session.submitLine slot line
    if next.hidden then (next, said)
    else
      let (last, later) := next.submitLines slot rest
      (last, said ++ later)

def Session.transcript (slot : Slot) (lines : List String) : List Signal :=
  (Session.start.submitLines slot lines).2

end TreeShell
