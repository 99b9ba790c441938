/-! # Binary floating point numbers of 64 bits

The finite ones without their sign, as exact numbers. Every operation gives the nearest such number
to the exact result, of two equally near ones the one with the even mantissa. -/
namespace DialogueScript.Decimal

/-- The number `mantissa * 2 ^ exponent`. The mantissa is below `2 ^ 53` and the exponent at least
`-1074`; only a number with the least exponent has a mantissa below `2 ^ 52`. -/
structure Double where
  mantissa : Nat
  exponent : Int
  deriving DecidableEq, Repr

namespace Double

def zero : Double := ⟨0, -1074⟩

def ratio (d : Double) : Nat × Nat :=
  (d.mantissa * Nat.pow 2 d.exponent.toNat, Nat.pow 2 (-d.exponent).toNat)

/-- The nearest integer to a quotient, a half going to the even neighbour. -/
def roundQuotient (num den : Nat) : Nat :=
  let low := num / den
  let rest := 2 * (num % den)
  if rest < den then low
  else if rest = den then low + low % 2
  else low + 1

/-- The power of two that the mantissa of `num / den` counts: the quotient over it lies between
`2 ^ 52` and `2 ^ 53`, unless that power is the least there is. -/
def unitExponent (num den : Nat) : Int :=
  let estimate : Int := (num.log2 : Int) - den.log2 - 53
  let quotient := num * Nat.pow 2 (-estimate).toNat / (den * Nat.pow 2 estimate.toNat)
  max (-1074) (if quotient < Nat.pow 2 53 then estimate else estimate + 1)

/-- The nearest number to `num / den`, unless that lies beyond the largest. -/
def ofRatio? (num den : Nat) : Option Double :=
  if num = 0 then some zero
  else
    let unit := unitExponent num den
    let mantissa := roundQuotient (num * Nat.pow 2 (-unit).toNat) (den * Nat.pow 2 unit.toNat)
    let rounded : Double :=
      if mantissa < Nat.pow 2 53 then ⟨mantissa, unit⟩ else ⟨Nat.pow 2 52, unit + 1⟩
    if rounded.exponent ≤ 971 then some rounded else none

def multiply? (a b : Double) : Option Double :=
  ofRatio? (a.ratio.1 * b.ratio.1) (a.ratio.2 * b.ratio.2)

def divide? (a b : Double) : Option Double :=
  ofRatio? (a.ratio.1 * b.ratio.2) (a.ratio.2 * b.ratio.1)

/-- The nearest number to `digits * 10 ^ exponent`. Numbers of so many digits before or after the
point that no such number comes near are told apart by that alone. -/
def ofDecimal? (digits : Nat) (exponent : Int) : Option Double :=
  let size : Int := (Nat.toDigits 10 digits).length + exponent
  if digits = 0 ∨ size < -330 then some zero
  else if size > 310 then none
  else ofRatio? (digits * Nat.pow 10 exponent.toNat) (Nat.pow 10 (-exponent).toNat)

end Double

end DialogueScript.Decimal
