import TreeShell.Shell.Command
import TreeShell.Shell.Completion
import TreeShell.Shell.History
import TreeShell.Shell.Transcript
import TreeShell.Slot

/-! A session at the prompt. Each event runs to its end before the next one: it takes
the session and the slot as they stand, and answers the session after it together
with what it says to the display. -/

namespace TreeShell

structure Session where
  path : String
  history : History
  input : String
  hidden : Bool
deriving DecidableEq, Repr

inductive Event where
  | line (text : String)
  | type (text : String)
  | submit
  | complete
  | recallPrevious
  | recallNext
deriving DecidableEq, Repr

inductive Signal where
  | append (entry : Transcript)
  | clear
  | hide
deriving DecidableEq, Repr

namespace Session

def start : Session := ⟨Path.root, History.empty, "", false⟩

/-- The working directory as long as it names a folder of the tree, else the root. -/
def directory (session : Session) (tree : FileTree) : String :=
  match tree.lookup session.path with
  | some node => if node.isFolder then session.path else Path.root
  | none => Path.root

def browse (tree : FileTree) (directory : String) : Command → String × Body
  | .cat argument =>
    (directory, match tree.resolveFile directory argument with
      | .ok node => .text (node.content?.getD "")
      | .error error => .error error)
  | .cd argument =>
    match tree.resolveFolder directory argument with
    | .ok node => (node.path, .blank)
    | .error error => (directory, .error error)
  | _ => (directory, .listing (tree.listing directory))

/-- The working directory after a command, and the answer if it has one. -/
def dispatch (slot : Slot) (session : Session) (command : Command) : String × Option Body :=
  match command with
  | .empty => (session.path, some .blank)
  | .clear => (session.path, none)
  | .help => (session.path, some .help)
  | .exit => (session.path, none)
  | .unknown name => (session.path, some (.error (.unrecognizedCommand name)))
  | command =>
    match slot.require with
    | .error error => (session.path, some (.error error))
    | .ok tree => (browse tree (session.directory tree) command).map id some

def signals : Command → List Signal
  | .clear => [.clear]
  | .exit => [.hide]
  | _ => []

/-- Answer one line. It is recorded as typed and the input is cleared, whatever comes
of it. -/
def submitLine (slot : Slot) (line : String) (session : Session) : Session × List Signal :=
  let command := Command.ofLine line
  let (path, body) := session.dispatch slot command
  ({ path
     history := session.history.record line
     input := ""
     hidden := session.hidden || command == .exit },
    signals command ++ (body.map fun body => .append ⟨session.path, line, body⟩).toList)

/-- What completing a line would do. A line without an argument needs no tree. -/
def preview (slot : Slot) (session : Session) (line : String) : Except ShellError Completion :=
  match Completion.request? line with
  | none => .ok .noop
  | some _ =>
    match slot.require with
    | .error error => .error error
    | .ok tree => .ok (tree.complete (session.directory tree) line)

def notice (session : Session) (body : Body) : Signal :=
  .append ⟨session.path, "", body⟩

def completeInput (slot : Slot) (session : Session) : Session × List Signal :=
  match session.preview slot session.input with
  | .error error => (session, [session.notice (.error error)])
  | .ok .noop => (session, [])
  | .ok (.replace line) => ({ session with input := line }, [])
  | .ok (.ambiguous candidates) => (session, [session.notice (.matches candidates)])
  | .ok (.noMatches term) => (session, [session.notice (.text s!"No matches found for: {term}")])
  | .ok (.noSuchDirectory parent) =>
    (session, [session.notice (.text s!"No such directory: {parent}")])

def withRecall (session : Session) : History × Recall → Session
  | (history, .unchanged) => { session with history }
  | (history, .replace line) => { session with history, input := line }
  | (history, .clear) => { session with history, input := "" }

def step (slot : Slot) (session : Session) : Event → Session × List Signal
  | .line text => session.submitLine slot text
  | .type text => ({ session with input := text }, [])
  | .submit => session.submitLine slot session.input
  | .complete => session.completeInput slot
  | .recallPrevious => (session.withRecall session.history.previous, [])
  | .recallNext => (session.withRecall session.history.next, [])

end Session
end TreeShell
