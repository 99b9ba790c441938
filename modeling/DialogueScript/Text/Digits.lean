/-! # Reading rows of digits -/
namespace DialogueScript.Text

/-- The value of a digit up to `f`, in either case. -/
def digitValue? (c : Char) : Option Nat :=
  if '0' ≤ c ∧ c ≤ '9' then some (c.toNat - '0'.toNat)
  else if 'a' ≤ c ∧ c ≤ 'f' then some (c.toNat - 'a'.toNat + 10)
  else if 'A' ≤ c ∧ c ≤ 'F' then some (c.toNat - 'A'.toNat + 10)
  else none

def pushDigit? (base value : Nat) (c : Char) : Option Nat := do
  let digit ← digitValue? c
  guard (digit < base)
  pure (value * base + digit)

def digitsValue? (base : Nat) (text : List Char) : Option Nat :=
  if text.isEmpty then none else text.foldlM (pushDigit? base) 0

/-- The number that decimal digits write, after a plus sign or without one. -/
def unsigned? : List Char → Option Nat
  | '+' :: digits => digitsValue? 10 digits
  | digits => digitsValue? 10 digits

def isSigned64 (value : Int) : Bool :=
  -9223372036854775808 ≤ value && value ≤ 9223372036854775807

def startsWithDigit (text : List Char) : Bool := text.head?.any Char.isDigit

def dropSign (text : List Char) : List Char :=
  if text.head? = some '-' ∨ text.head? = some '+' then text.drop 1 else text

end DialogueScript.Text
