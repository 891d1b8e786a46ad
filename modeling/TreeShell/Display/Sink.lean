import TreeShell.Display.Renderer
import TreeShell.Shell.Session

/-! Displays that take what a session says. One keeps transcript entries, the other
writes them out as text; both follow the same signals. -/

namespace TreeShell

/-- A display that keeps the entries since it was last cleared. -/
structure Record where
  entries : List Transcript
  hidden : Bool
deriving DecidableEq, Repr

namespace Record

def empty : Record := ⟨[], false⟩

def take (record : Record) : Signal → Record
  | .append entry => { record with entries := record.entries ++ [entry] }
  | .clear => { record with entries := [] }
  | .hide => { record with hidden := true }

end Record

/-- What a display that renders to text writes for one signal. -/
def Renderer.write (renderer : Renderer) : Signal → String
  | .append entry => renderer.render entry
  | .clear => renderer.clearSequence?.getD ""
  | .hide => ""

def Renderer.writeAll (renderer : Renderer) (signals : List Signal) : String :=
  String.join (signals.map renderer.write)

end TreeShell
