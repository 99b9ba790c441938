/-! # The plain values that fields hold -/
namespace DialogueScript

inductive Scalar
  | text (value : String)
  | flag (value : Bool)
  | number (value : Nat)
  deriving DecidableEq, Repr

abbrev Field := String × Scalar

def flagText (value : Bool) : String := if value then "true" else "false"

end DialogueScript
