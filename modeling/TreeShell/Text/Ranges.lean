/-! Sets of characters written as ascending ranges of code points. Every Unicode
property the shell consults is such a set. -/

namespace TreeShell.Text

abbrev Ranges := List (Nat × Nat)

def Ranges.contains (ranges : Ranges) (character : Char) : Bool :=
  ranges.any fun (first, last) => first ≤ character.toNat && character.toNat ≤ last

end TreeShell.Text
