import TreeShell.Display.Help
import TreeShell.Shell.Transcript
import TreeShell.Text.Control
import TreeShell.Text.Markup

/-! Transcript entries as text, for a plain terminal, a terminal with colours, or a
web page. Content that is not trusted is escaped for the place where it is shown. -/

namespace TreeShell

inductive RenderMode where
  | plain
  | ansi
  | html
deriving DecidableEq, Repr

inductive ContentTrust where
  | trusted
  | escaped
deriving DecidableEq, Repr

structure Renderer where
  mode : RenderMode
  trust : ContentTrust
  prompt : String
deriving DecidableEq, Repr

namespace Renderer

def clearSequence? (renderer : Renderer) : Option String :=
  match renderer.mode with
  | .ansi => some "\x1b[2J\x1b[H"
  | .plain | .html => none

def candidateLines (candidates : List String) : String :=
  "Possible matches:\n" ++ "\n".intercalate candidates

section Markup

def markupContent (renderer : Renderer) (text : String) : String :=
  match renderer.trust with
  | .trusted => text
  | .escaped => Text.escapeMarkup text

def markupItem (renderer : Renderer) (entry : ListingEntry) : String :=
  let name := renderer.markupContent entry.name
  match entry.kind with
  | .folder => "<li> <span class=\"folder\">" ++ name ++ "/</span></li>"
  | .executable => "<li> <span class=\"executable\">" ++ name ++ "</span></li>"
  | .plain => "<li> <span class=\"file\">" ++ name ++ "</span></li>"

def markupBody (renderer : Renderer) : Body → String
  | .blank => ""
  | .text content => renderer.markupContent content
  | .help => Help.markup
  | .listing entries => "<ul>" ++ " ".intercalate (entries.map renderer.markupItem) ++ "</ul>"
  | .matches candidates => renderer.markupContent (candidateLines candidates)
  | .error cause =>
    "<span class=\"error\">Error: " ++ renderer.markupContent cause.message ++ "</span>"

/-- The paragraph that repeats what was typed. It is escaped whatever is trusted. -/
def markupHeader (renderer : Renderer) (entry : Transcript) : String :=
  "<p class=\"line\">" ++ Text.escapeMarkup entry.promptPath ++ "<span class=\"green\">" ++
    Text.escapeMarkup renderer.prompt ++ "</span> " ++ Text.escapeMarkup entry.command ++ "</p>\n"

def renderMarkup (renderer : Renderer) (entry : Transcript) : String :=
  renderer.markupHeader entry ++ "<p class=\"line\">" ++ renderer.markupBody entry.body ++ "</p>\n"

end Markup

section Terminal

def styled (renderer : Renderer) (style : Style) (text : String) : String :=
  if renderer.mode == .ansi then style.wrap text else text

def terminalContent (renderer : Renderer) (text : String) : String :=
  match renderer.trust with
  | .trusted => text
  | .escaped => Text.stripControl text

def terminalItem (renderer : Renderer) (entry : ListingEntry) : String :=
  let name := renderer.terminalContent entry.name
  match entry.kind with
  | .folder => renderer.styled .bold (renderer.styled .blue (name ++ "/"))
  | .executable => renderer.styled .green name
  | .plain => name

def terminalBody (renderer : Renderer) : Body → String
  | .blank => ""
  | .text content => renderer.terminalContent content
  | .help => Help.text (renderer.styled .cyan)
  | .listing entries => "  ".intercalate (entries.map renderer.terminalItem)
  | .matches candidates => renderer.terminalContent (candidateLines candidates)
  | .error cause => renderer.styled .red ("Error: " ++ renderer.terminalContent cause.message)

/-- The line that repeats what was typed, without control characters in the command. -/
def terminalHeader (renderer : Renderer) (entry : Transcript) : String :=
  renderer.styled .blue entry.promptPath ++ renderer.styled .green renderer.prompt ++ " " ++
    Text.stripControl entry.command ++ "\n"

def closeLine (text : String) : String :=
  match text.toList.getLast? with
  | none => ""
  | some last => if last == '\n' then text else text ++ "\n"

def renderTerminal (renderer : Renderer) (entry : Transcript) : String :=
  renderer.terminalHeader entry ++ closeLine (renderer.terminalBody entry.body)

end Terminal

def render (renderer : Renderer) (entry : Transcript) : String :=
  match renderer.mode with
  | .html => renderer.renderMarkup entry
  | .plain | .ansi => renderer.renderTerminal entry

end Renderer
end TreeShell
