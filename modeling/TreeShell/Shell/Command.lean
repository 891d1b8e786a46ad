import TreeShell.Text.Blank

/-! The command vocabulary. The first word of a line names a command and the second
is its argument; further words are ignored. -/

namespace TreeShell

inductive Command where
  | empty
  | clear
  | help
  | exit
  | cat (argument : Option String)
  | ls
  | cd (argument : Option String)
  | unknown (name : String)
deriving DecidableEq, Repr

namespace Command

def ofWords : List String → Command
  | [] => .empty
  | name :: arguments =>
    if name == "clear" then .clear
    else if name == "help" then .help
    else if name == "exit" then .exit
    else if name == "cat" then .cat arguments.head?
    else if name == "ls" then .ls
    else if name == "cd" then .cd arguments.head?
    else .unknown name

def ofLine (line : String) : Command :=
  ofWords (Text.words line)

def name : Command → String
  | .empty => ""
  | .clear => "clear"
  | .help => "help"
  | .exit => "exit"
  | .cat _ => "cat"
  | .ls => "ls"
  | .cd _ => "cd"
  | .unknown name => name

def needsTree : Command → Bool
  | .cat _ | .ls | .cd _ => true
  | _ => false

end Command
end TreeShell
