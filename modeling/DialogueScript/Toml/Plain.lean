import DialogueScript.Text.Digits
import DialogueScript.Toml.Value

/-! # TOML values that are words: numbers, dates and booleans -/
namespace DialogueScript.Toml

/-- A row of digits without the underscores in it, each of which stands between two digits.
`afterDigit` says that a digit precedes the text. -/
def ungroup? (isDigit : Char → Bool) (afterDigit : Bool) : List Char → Option (List Char)
  | [] => if afterDigit then some [] else none
  | c :: rest =>
    if isDigit c then (ungroup? isDigit true rest).map (c :: ·)
    else if c = '_' && afterDigit then ungroup? isDigit false rest
    else none

/-- The digits of a whole number, which starts with a zero only if that is all of it. -/
def wholeDigits? (text : List Char) : Option (List Char) := do
  let digits ← ungroup? Char.isDigit false text
  guard (digits.head? ≠ some '0' ∨ digits.length = 1)
  pure digits

def isHexDigit (c : Char) : Bool := (Text.digitValue? c).isSome

/-- The digits of a base after `0x`, `0o` or `0b`. -/
def readBased? (base : Nat) (text : List Char) : Option Nat := do
  Text.digitsValue? base (← ungroup? isHexDigit false text)

/-- An integer of 64 bits. Only a decimal one has a sign. -/
def integer? (word : List Char) : Option Int := do
  let value ← match word with
    | '0' :: 'x' :: digits => (readBased? 16 digits).map Int.ofNat
    | '0' :: 'o' :: digits => (readBased? 8 digits).map Int.ofNat
    | '0' :: 'b' :: digits => (readBased? 2 digits).map Int.ofNat
    | _ => do
      let size ← Text.digitsValue? 10 (← wholeDigits? (Text.dropSign word))
      pure (if word.head? = some '-' then -(size : Int) else size)
  guard (Text.isSigned64 value)
  pure value

def readPower? (text : List Char) : Option Int := do
  let size ← Text.digitsValue? 10 (← ungroup? Char.isDigit false (Text.dropSign text))
  pure (if text.head? = some '-' then -(size : Int) else size)

/-- What a number is rounded to. A positive one must not be too large. -/
def roundedReal? (negative : Bool) (digits : List Char) (power : Int) : Option Decimal.Real := do
  let value ← Text.digitsValue? 10 digits
  match Decimal.Double.ofDecimal? value power with
  | some size => pure (.finite negative size)
  | none => if negative then pure (.infinite true) else none

/-- A floating point number has decimals, an exponent or both, unless it is not finite. -/
def float? (word : List Char) : Option Decimal.Real :=
  let negative := word.head? = some '-'
  let size := Text.dropSign word
  if size = ['i', 'n', 'f'] then some (.infinite negative)
  else if size = ['n', 'a', 'n'] then some .notANumber
  else do
    let whole := size.takeWhile fun c => c ≠ '.' && c ≠ 'e' && c ≠ 'E'
    let digits ← wholeDigits? whole
    match size.drop whole.length with
    | '.' :: rest =>
      let fraction := rest.takeWhile fun c => c ≠ 'e' && c ≠ 'E'
      let decimals ← ungroup? Char.isDigit false fraction
      let power ← match rest.drop fraction.length with
        | [] => pure 0
        | _ :: power => readPower? power
      roundedReal? negative (digits ++ decimals) (power - decimals.length)
    | _ :: power => roundedReal? negative digits (← readPower? power)
    | [] => none

/-! ### Dates and times -/

def readField? (width low high : Nat) (text : List Char) : Option (List Char × List Char) := do
  let digits := text.take width
  guard (digits.length = width ∧ digits.all Char.isDigit)
  let value ← Text.digitsValue? 10 digits
  guard (low ≤ value ∧ value ≤ high)
  pure (digits, text.drop width)

def expect? (c : Char) : List Char → Option (List Char)
  | [] => none
  | d :: rest => if d = c then some rest else none

def daysIn (year month : Nat) : Nat :=
  if month = 2 then if year % 4 = 0 ∧ (year % 100 ≠ 0 ∨ year % 400 = 0) then 29 else 28
  else if month = 4 ∨ month = 6 ∨ month = 9 ∨ month = 11 then 30
  else 31

def readDate? (text : List Char) : Option (List Char × List Char) := do
  let (year, rest) ← readField? 4 0 9999 text
  let (month, rest) ← readField? 2 1 12 (← expect? '-' rest)
  let days := daysIn ((Text.digitsValue? 10 year).getD 0) ((Text.digitsValue? 10 month).getD 0)
  let (day, rest) ← readField? 2 1 days (← expect? '-' rest)
  pure (year ++ '-' :: month ++ '-' :: day, rest)

/-- The decimals of a second, in their normal form: nine at most, and no zeros at the end. -/
def normalDecimals (digits : List Char) : List Char :=
  let kept := ((digits.take 9).reverse.dropWhile (· = '0')).reverse
  if kept.isEmpty then [] else '.' :: kept

def readTime? (text : List Char) : Option (List Char × List Char) := do
  let (hour, rest) ← readField? 2 0 23 text
  let (minute, rest) ← readField? 2 0 59 (← expect? ':' rest)
  let (second, rest) ← readField? 2 0 60 (← expect? ':' rest)
  let time := hour ++ ':' :: minute ++ ':' :: second
  match rest with
  | '.' :: after =>
    let digits := after.takeWhile Char.isDigit
    guard (!digits.isEmpty)
    pure (time ++ normalDecimals digits, after.drop digits.length)
  | _ => pure (time, rest)

/-- How far a time is ahead. No time at all has a plus sign. -/
def readOffset? : List Char → Option (List Char)
  | [] => some []
  | [c] => if c = 'Z' ∨ c = 'z' then some ['Z'] else none
  | sign :: rest => do
    guard (sign = '+' ∨ sign = '-')
    let (hour, rest) ← readField? 2 0 23 rest
    let (minute, rest) ← readField? 2 0 59 (← expect? ':' rest)
    guard rest.isEmpty
    let size := hour ++ ':' :: minute
    pure ((if size = ['0', '0', ':', '0', '0'] then '+' else sign) :: size)

/-- A date, a time, or both with a letter or a space between them and maybe an offset. -/
def moment? (word : List Char) : Option (List Char) :=
  match readDate? word with
  | some (date, []) => some date
  | some (date, c :: rest) => do
    guard (c = 'T' ∨ c = 't' ∨ c = ' ')
    let (time, rest) ← readTime? rest
    pure (date ++ 'T' :: time ++ (← readOffset? rest))
  | none => do
    let (time, rest) ← readTime? word
    guard rest.isEmpty
    pure time

/-! ### Words -/

def isWordCharacter (c : Char) : Bool :=
  c.isAlphanum || c = '_' || c = '-' || c = '+' || c = '.' || c = ':'

/-- The word at the start of a text. A space between a date and a time is part of it. -/
def takeWord (text : List Char) : List Char :=
  let word := text.takeWhile isWordCharacter
  match text.drop word.length with
  | ' ' :: rest =>
    if word.length = 10 && (readDate? word).isSome && Text.startsWithDigit rest then
      word ++ ' ' :: rest.takeWhile isWordCharacter
    else word
  | _ => word

def plainValue? (word : List Char) : Option Value :=
  if word = ['t', 'r', 'u', 'e'] then some (.boolean true)
  else if word = ['f', 'a', 'l', 's', 'e'] then some (.boolean false)
  else ((moment? word).map fun text => .moment (String.ofList text)).or
    (((integer? word).map .integer).or ((float? word).map .float))

end DialogueScript.Toml
