/-! Terminal styles. A style is switched on before a text and off after it, by
sequences that depend on the style alone. -/

namespace TreeShell

inductive Style where
  | red
  | green
  | blue
  | cyan
  | bold
deriving DecidableEq, Repr

namespace Style

def on : Style → String
  | .red => "\x1b[31m"
  | .green => "\x1b[32m"
  | .blue => "\x1b[34m"
  | .cyan => "\x1b[36m"
  | .bold => "\x1b[1m"

/-- Colours fall back to the default one; bold resets the terminal. -/
def off : Style → String
  | .bold => "\x1b[0m"
  | _ => "\x1b[39m"

def wrap (style : Style) (text : String) : String :=
  style.on ++ text ++ style.off

end Style
end TreeShell
