import DialogueScript.Decimal.Shortest

/-! # Writing floating point numbers -/
namespace DialogueScript.Decimal

namespace Scaled

def digitList (s : Scaled) : List Char := Nat.toDigits 10 s.digits

/-- How many digits stand before the point; negative for zeros after it. -/
def pointPlace (s : Scaled) : Int := s.digitList.length + s.exponent

def positional (s : Scaled) : List Char :=
  let digits := s.digitList
  let place := s.pointPlace
  if 0 ≤ s.exponent then digits ++ List.replicate s.exponent.toNat '0' ++ ['.', '0']
  else if 0 < place then digits.take place.toNat ++ '.' :: digits.drop place.toNat
  else ['0', '.'] ++ List.replicate (-place).toNat '0' ++ digits

def scientific (s : Scaled) : List Char :=
  let digits := s.digitList
  let power := s.pointPlace - 1
  digits.take 1 ++ (if digits.length = 1 then [] else '.' :: digits.drop 1) ++
    ['e', if power < 0 then '-' else '+'] ++ Nat.toDigits 10 power.natAbs

/-- Positional from `1e-5` up to below `1e16`, scientific beyond. -/
def balanced (s : Scaled) : List Char :=
  if s.digits = 0 ∨ (-5 < s.pointPlace ∧ s.pointPlace ≤ 16) then s.positional else s.scientific

end Scaled

def signed (negative : Bool) (text : List Char) : List Char :=
  if negative then '-' :: text else text

end DialogueScript.Decimal
