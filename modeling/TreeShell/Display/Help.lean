import TreeShell.Display.Style

/-! The command reference, as a table of names and descriptions. -/

namespace TreeShell.Help

def commands : List (String × String) :=
  [("clear", "Clear the terminal screen"),
    ("cat", "Display the contents of a file"),
    ("cd", "Change the current directory"),
    ("help", "Show available commands and their descriptions"),
    ("ls", "List the contents of the current directory"),
    ("exit", "Exit the terminal")]

def padding (name : String) : String :=
  String.ofList (List.replicate (10 - name.length) ' ')

def text (colour : String → String) : String :=
  "Usage: [command] [argument]\n\nCommands:\n" ++
    String.join (commands.map fun (name, description) =>
      "  " ++ colour (name ++ padding name) ++ description ++ "\n")

def markup : String :=
  "<div class=\"cli-help\">\n        <pre>\n" ++
    "Usage: [[<span class=\"command\">command</span>] " ++
    "[<span class=\"command\">argument</span>]]\n\nCommands:\n" ++
    String.join (commands.map fun (name, description) =>
      "  <span class=\"command\">" ++ name ++ "</span>" ++ padding name ++ description ++ "\n") ++
    "        </pre>\n    </div>"

end TreeShell.Help
