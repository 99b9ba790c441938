import DialogueScript.Decimal.Double

/-! # The shortest decimal of a floating point number

Of the decimals that round to a number, those of the fewest digits, and of these the nearest; where
two are equally near, a rule of the writer decides. -/
namespace DialogueScript.Decimal

structure Scaled where
  digits : Nat
  exponent : Int
  deriving DecidableEq, Repr

/-- Which of two equally near decimals is taken: the one with the even last digit, or the larger. -/
inductive Tie
  | toEven
  | up
  deriving DecidableEq, Repr

def Tie.choose (tie : Tie) (below : Nat) : Nat :=
  match tie with
  | .toEven => below + below % 2
  | .up => below + 1

namespace Double

/-- The bounds of the numbers that round to this one, and the number itself between them, in
quarters of its last binary place. -/
def neighbourhood (d : Double) : Nat × Nat × Nat :=
  let value := 4 * d.mantissa
  let isLeastOfBinade := d.mantissa = Nat.pow 2 52 ∧ -1074 < d.exponent
  (if isLeastOfBinade then value - 1 else value - 2, value, value + 2)

/-- The nearest multiple of `10 ^ exponent` that rounds to the number, if one does. The bounds round
to it when its mantissa is even. -/
def onGrid? (tie : Tie) (d : Double) (exponent : Int) : Option Nat :=
  let (low, value, high) := d.neighbourhood
  let quarter := d.exponent - 2
  let step := Nat.pow 10 exponent.toNat * Nat.pow 2 (-quarter).toNat
  let place := Nat.pow 2 quarter.toNat * Nat.pow 10 (-exponent).toNat
  let admits (n : Nat) : Bool :=
    if d.mantissa % 2 = 0 then low * place ≤ n * step ∧ n * step ≤ high * place
    else low * place < n * step ∧ n * step < high * place
  let below := value * place / step
  match admits below, admits (below + 1) with
  | false, false => none
  | true, false => some below
  | false, true => some (below + 1)
  | true, true =>
    match compare (2 * (value * place)) ((2 * below + 1) * step) with
    | .lt => some below
    | .eq => some (tie.choose below)
    | .gt => some (below + 1)

def refine (tie : Tie) (d : Double) : Nat → Int → Scaled
  | 0, exponent => ⟨0, exponent⟩
  | tries + 1, exponent =>
    match d.onGrid? tie exponent with
    | some digits => ⟨digits, exponent⟩
    | none => refine tie d tries (exponent - 1)

/-- Begins with a power of ten above the number. Seventeen digits tell all numbers apart. -/
def shortest (tie : Tie) (d : Double) : Scaled :=
  if d.mantissa = 0 then ⟨0, 0⟩
  else refine tie d 24 (((d.mantissa.log2 : Int) + 1 + d.exponent) * 30103 / 100000 + 2)

end Double

end DialogueScript.Decimal
