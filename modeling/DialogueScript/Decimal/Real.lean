import DialogueScript.Decimal.Notation

/-! # Signed floating point numbers, finite or not -/
namespace DialogueScript.Decimal

inductive Real
  | finite (negative : Bool) (size : Double)
  | infinite (negative : Bool)
  | notANumber
  deriving DecidableEq, Repr

namespace Real

/-- Zero has two signs. A value that is not a number is not zero. -/
def isZero : Real → Bool
  | finite _ size => size.mantissa = 0
  | _ => false

/-- All places written out. Of two equally near decimals the larger is written. -/
def text : Real → List Char
  | finite negative size => signed negative (size.shortest .up).positional
  | infinite negative => signed negative ['i', 'n', 'f']
  | notANumber => ['N', 'a', 'N']

end Real

end DialogueScript.Decimal
