import DialogueScript.Text.Digits

/-! # Texts that plain YAML would take for other values

Nulls, booleans, integers and floating point numbers. A plain text that looks like one has to be
quoted. -/
namespace DialogueScript.Yaml

def nullWords : List String := ["", "null", "Null", "NULL", "~"]

def booleanWords : List String := ["true", "True", "TRUE", "false", "False", "FALSE"]

/-- The size of an integer without its sign: `0x`, `0o` or `0b` and digits, or decimal digits. -/
def magnitude? : List Char → Option Nat
  | '0' :: 'x' :: rest => Text.digitsValue? 16 rest
  | '0' :: 'o' :: rest => Text.digitsValue? 8 rest
  | '0' :: 'b' :: rest => Text.digitsValue? 2 rest
  | text => Text.digitsValue? 10 text

/-- Integers have 128 bits, with or without a sign. -/
def isInteger : List Char → Bool
  | '-' :: rest => (magnitude? rest).any (· ≤ Nat.pow 2 127)
  | '+' :: rest => (magnitude? rest).any (· < Nat.pow 2 128)
  | text => (magnitude? text).any (· < Nat.pow 2 128)

structure Decimal where
  digits : List Char
  exponent : Int

def exponent? : List Char → Option Int
  | [] => some 0
  | mark :: rest =>
    if mark = 'e' ∨ mark = 'E' then
      let size := (Text.digitsValue? 10 (Text.dropSign rest)).map Int.ofNat
      if rest.head? = some '-' then size.map fun n => -n else size
    else none

/-- Digits with an optional point among or beside them, at least one, and an optional exponent. -/
def decimal? (text : List Char) : Option Decimal := do
  let whole := text.takeWhile Char.isDigit
  let rest := text.dropWhile Char.isDigit
  let pointed := rest.head? = some '.'
  let afterPoint := if pointed then rest.drop 1 else rest
  let fraction := if pointed then afterPoint.takeWhile Char.isDigit else []
  guard (!(whole ++ fraction).isEmpty)
  let exponent ← exponent? (afterPoint.drop fraction.length)
  pure ⟨whole ++ fraction, exponent - fraction.length⟩

/-- The least number that rounds to infinity: half a unit beyond the largest double. -/
def overflowThreshold : Nat := Nat.pow 2 1024 - Nat.pow 2 970

/-- Whether a decimal is a finite double. Its length and exponent decide, close to the threshold its
digits do. -/
def Decimal.isFinite (d : Decimal) : Bool :=
  let digits := d.digits.dropWhile (· = '0')
  let magnitude : Int := digits.length + d.exponent
  if digits.isEmpty ∨ magnitude < 308 then true
  else if magnitude > 310 then false
  else
    let value := (Text.digitsValue? 10 digits).getD 0
    if d.exponent < 0 then value < overflowThreshold * Nat.pow 10 d.exponent.natAbs
    else value * Nat.pow 10 d.exponent.natAbs < overflowThreshold

def infinityWords : List String := [".inf", ".Inf", ".INF"]

def nanWords : List String := [".nan", ".NaN", ".NAN"]

/-- Infinity may have a sign, not-a-number has none; other numbers have to be finite. -/
def isFloat (text : List Char) : Bool :=
  let size := Text.dropSign text
  nanWords.contains (String.ofList text) || infinityWords.contains (String.ofList size) ||
    (decimal? size).any Decimal.isFinite

def isPaddedNumber (text : List Char) : Bool :=
  let digits := Text.dropSign text
  digits.head? = some '0' && 1 < digits.length && digits.all Char.isDigit

def isAmbiguous (text : List Char) : Bool :=
  nullWords.contains (String.ofList text) || booleanWords.contains (String.ofList text) ||
    isInteger text || isFloat text || isPaddedNumber text

end DialogueScript.Yaml
