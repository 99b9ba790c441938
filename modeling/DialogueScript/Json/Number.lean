import DialogueScript.Json.Token

/-! # The numbers of JSON

Integers keep their value as far as 64 bits hold them; all other numbers are floating point. Of
those, only the digits that fit 64 bits count, and a power of ten is multiplied or divided on
afterwards, so the result can be a unit off the nearest. -/
namespace DialogueScript.Json

inductive Number
  | integer (value : Int)
  | float (negative : Bool) (size : Decimal.Double)
  deriving DecidableEq, Repr

def Number.found : Number → Found
  | integer value => .integer value
  | float negative size => .float negative size

/-- Takes digits for as long as the number they write has 64 bits. -/
def takeDigits (value : Nat) : List Char → Nat × List Char
  | [] => (value, [])
  | c :: rest =>
    let next := value * 10 + (c.toNat - '0'.toNat)
    if c.isDigit ∧ next < Nat.pow 2 64 then takeDigits next rest else (value, c :: rest)

def dropDigits (text : List Char) : List Char := text.dropWhile Char.isDigit

def tenTo (n : Nat) : Decimal.Double := (Decimal.Double.ofRatio? (Nat.pow 10 n) 1).getD .zero

/-- A number times a power of ten. Of a power below the least that a double holds, `10 ^ -308` is
taken off at a time. -/
def scale? (size : Decimal.Double) (exponent : Int) : Option Decimal.Double :=
  if exponent.natAbs ≤ 308 then
    if 0 ≤ exponent then size.multiply? (tenTo exponent.natAbs)
    else size.divide? (tenTo exponent.natAbs)
  else if size.mantissa = 0 then some .zero
  else if 0 ≤ exponent then none
  else (size.divide? (tenTo 308)).bind fun smaller => scale? smaller (exponent + 308)
termination_by exponent.natAbs

/-- A number is malformed if it is too large. -/
def toDouble (significand : Nat) (exponent : Int) (rest : List Char) :
    Except DecodeError (Decimal.Double × List Char) :=
  match (Decimal.Double.ofRatio? significand 1).bind (scale? · exponent) with
  | some size => .ok (size, rest)
  | none => .error .malformed

/-- The exponent of a number, after its letter. One beyond 32 bits decides the number alone. -/
def readExponent (significand : Nat) (start : Int) (text : List Char) :
    Except DecodeError (Decimal.Double × List Char) :=
  let isNegative := text.head? = some '-'
  let digits := Text.dropSign text
  if digits.isEmpty then .error .truncated
  else if !Text.startsWithDigit digits then .error .malformed
  else
    let size := (Text.digitsValue? 10 (digits.takeWhile Char.isDigit)).getD 0
    if Nat.pow 2 31 ≤ size then
      if significand ≠ 0 ∧ ¬isNegative then .error .malformed else .ok (.zero, dropDigits digits)
    else
      let exponent := if isNegative then start - size else start + size
      toDouble significand exponent (dropDigits digits)

def startsExponent (text : List Char) : Bool := text.head?.any fun c => c = 'e' || c = 'E'

def readScale (significand : Nat) (exponent : Int) (text : List Char) :
    Except DecodeError (Decimal.Double × List Char) :=
  if startsExponent text then readExponent significand exponent (text.drop 1)
  else toDouble significand exponent text

def readFraction (significand : Nat) (exponent : Int) (text : List Char) :
    Except DecodeError (Decimal.Double × List Char) :=
  let (significand, rest) := takeDigits significand text
  if text.isEmpty then .error .truncated
  else if !Text.startsWithDigit text then .error .malformed
  else readScale significand (exponent - (text.length - rest.length : Nat)) (dropDigits rest)

/-- An integer, if its sign leaves it one: there is no negative zero among them. -/
def ofInteger (negative : Bool) (size : Nat) : Number :=
  if !negative then .integer size
  else if size = 0 ∨ Nat.pow 2 63 < size then
    .float true ((Decimal.Double.ofRatio? size 1).getD .zero)
  else .integer (-size)

def readNumber (negative : Bool) (text : List Char) : Except DecodeError (Number × List Char) :=
  let toNumber (read : Decimal.Double × List Char) : Number × List Char :=
    (.float negative read.1, read.2)
  if text.isEmpty then .error .truncated
  else if !Text.startsWithDigit text then .error .malformed
  else if text.head? = some '0' && Text.startsWithDigit (text.drop 1) then .error .malformed
  else
    let (significand, more) := takeDigits 0 text
    let rest := dropDigits more
    let ignored := more.length - rest.length
    if rest.head? = some '.' then (readFraction significand ignored (rest.drop 1)).map toNumber
    else if startsExponent rest || 0 < ignored then
      (readScale significand ignored rest).map toNumber
    else .ok (ofInteger negative significand, rest)

/-! ### What a number leaves of the text -/

theorem dropWhile_length_le {α : Type} (p : α → Bool) (text : List α) :
    (text.dropWhile p).length ≤ text.length := (List.dropWhile_sublist p).length_le

theorem dropSign_length_le (text : List Char) : (Text.dropSign text).length ≤ text.length := by
  unfold Text.dropSign
  split <;> simp

theorem takeDigits_length_le (value : Nat) (text : List Char) :
    (takeDigits value text).2.length ≤ text.length := by
  fun_induction takeDigits value text with
  | case1 => simp
  | case2 _ _ _ _ _ ih => exact Nat.le_succ_of_le ih
  | case3 => simp

theorem toDouble_rest {significand : Nat} {exponent : Int} {text : List Char}
    {read : Decimal.Double × List Char} (h : toDouble significand exponent text = .ok read) :
    read.2 = text := by
  unfold toDouble at h
  split at h <;> cases h
  rfl

theorem readExponent_length_le {significand : Nat} {start : Int} {text : List Char}
    {read : Decimal.Double × List Char} (h : readExponent significand start text = .ok read) :
    read.2.length ≤ text.length := by
  have hrest : (dropDigits (Text.dropSign text)).length ≤ text.length :=
    Nat.le_trans (dropWhile_length_le _ _) (dropSign_length_le text)
  unfold readExponent at h
  dsimp only at h
  split at h
  · simp at h
  · split at h
    · simp at h
    · split at h
      · split at h <;> cases h
        exact hrest
      · rw [toDouble_rest h]
        exact hrest

theorem readScale_length_le {significand : Nat} {exponent : Int} {text : List Char}
    {read : Decimal.Double × List Char} (h : readScale significand exponent text = .ok read) :
    read.2.length ≤ text.length := by
  unfold readScale at h
  split at h
  · have := readExponent_length_le h
    simp only [List.length_drop] at this
    omega
  · exact Nat.le_of_eq (congrArg List.length (toDouble_rest h))

theorem readFraction_length_le {significand : Nat} {exponent : Int} {text : List Char}
    {read : Decimal.Double × List Char} (h : readFraction significand exponent text = .ok read) :
    read.2.length ≤ text.length := by
  unfold readFraction at h
  dsimp only at h
  split at h
  · simp at h
  · split at h
    · simp at h
    · exact Nat.le_trans (readScale_length_le h)
        (Nat.le_trans (dropWhile_length_le _ _) (takeDigits_length_le _ text))

theorem readNumber_length_le {negative : Bool} {text : List Char} {read : Number × List Char}
    (h : readNumber negative text = .ok read) : read.2.length ≤ text.length := by
  have hrest : (dropDigits (takeDigits 0 text).2).length ≤ text.length :=
    Nat.le_trans (dropWhile_length_le _ _) (takeDigits_length_le 0 text)
  unfold readNumber at h
  dsimp only at h
  split at h
  · simp at h
  · split at h
    · simp at h
    · split at h
      · simp at h
      · split at h
        · obtain ⟨scaled, hscaled, rfl⟩ := map_ok h
          have := readFraction_length_le hscaled
          simp only [List.length_drop] at this
          dsimp only
          omega
        · split at h
          · obtain ⟨scaled, hscaled, rfl⟩ := map_ok h
            have := readScale_length_le hscaled
            dsimp only
            omega
          · cases h
            exact hrest

def skipExponent (text : List Char) : Except DecodeError (List Char) :=
  if !startsExponent text then .ok text
  else
    let digits := Text.dropSign (text.drop 1)
    if Text.startsWithDigit digits then .ok (dropDigits digits) else .error .malformed

/-- What follows a number, given the text after its sign. The number may be of any size; one that
is cut off is malformed. -/
def skipNumber (text : List Char) : Except DecodeError (List Char) :=
  if !Text.startsWithDigit text then .error .malformed
  else if text.head? = some '0' && Text.startsWithDigit (text.drop 1) then .error .malformed
  else
    let rest := dropDigits text
    if rest.head? = some '.' then
      if Text.startsWithDigit (rest.drop 1) then skipExponent (dropDigits (rest.drop 1))
      else .error .malformed
    else skipExponent rest

end DialogueScript.Json
