/-
This file holds membership in a table of code point ranges, the form in which the character
properties of the Unicode standard are written down here.
-/

namespace ParamChain.Text

/-- Whether a code point lies in one of the ranges, both ends included. -/
def inRanges (table : List (Nat × Nat)) (n : Nat) : Bool :=
  table.any fun r => r.1 ≤ n && n ≤ r.2

end ParamChain.Text
