/-! # Sets of characters given by ranges of code points -/
namespace DialogueScript.Text

/-- A first and a last code point, both included. -/
abbrev CodeRange := Nat × Nat

def inRanges (ranges : List CodeRange) (c : Char) : Bool :=
  ranges.any fun r => r.1 ≤ c.toNat && c.toNat ≤ r.2

end DialogueScript.Text
