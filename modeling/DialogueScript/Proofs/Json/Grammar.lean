import DialogueScript.Json.Token
import Mathlib

/-! # The grammar of JSON

What a text has to be for a string, a number or a value to be written there, apart from any reader.
A string that spells something has to pair its surrogates, one that is passed over does not. -/
namespace DialogueScript.Json

def IsGap (text : List Char) : Prop := ∀ c ∈ text, isSpacing c = true

theorem isGap_nil : IsGap [] := by simp [IsGap]

/-! ### Strings -/

def IsUnit (digits : List Char) (n : Nat) : Prop :=
  digits.length = 4 ∧ Text.digitsValue? 16 digits = some n

/-- How a character of a string is written: as itself, by the letter of an escape, or by one code
unit or two. -/
inductive SpellsCharacter : List Char → Char → Prop
  | itself {c : Char} (hquote : c ≠ '"') (hbackslash : c ≠ '\\') (hcontrol : 0x20 ≤ c.toNat) :
      SpellsCharacter [c] c
  | letter {letter c : Char} (hmeant : letterEscapes.lookup letter = some c) :
      SpellsCharacter ['\\', letter] c
  | unit {digits : List Char} {n : Nat} (hunit : IsUnit digits n)
      (halone : n < 0xd800 ∨ 0xdfff < n) : SpellsCharacter ('\\' :: 'u' :: digits) (Char.ofNat n)
  | pair {leading trailing : List Char} {n m : Nat} (hleading : IsUnit leading n)
      (htrailing : IsUnit trailing m) (hhigh : 0xd800 ≤ n ∧ n ≤ 0xdbff)
      (hlow : 0xdc00 ≤ m ∧ m ≤ 0xdfff) :
      SpellsCharacter ('\\' :: 'u' :: (leading ++ '\\' :: 'u' :: trailing))
        (Char.ofNat (0x10000 + (n - 0xd800) * 0x400 + (m - 0xdc00)))

inductive Spells : List Char → List Char → Prop
  | nil : Spells [] []
  | cons {piece body text : List Char} {c : Char} (hfirst : SpellsCharacter piece c)
      (hothers : Spells body text) : Spells (piece ++ body) (c :: text)

inductive IsPiece : List Char → Prop
  | itself {c : Char} (hquote : c ≠ '"') (hbackslash : c ≠ '\\') (hcontrol : 0x20 ≤ c.toNat) :
      IsPiece [c]
  | letter {letter : Char} (hknown : (letterEscapes.lookup letter).isSome = true) :
      IsPiece ['\\', letter]
  | unit {digits : List Char} {n : Nat} (hunit : IsUnit digits n) : IsPiece ('\\' :: 'u' :: digits)

inductive IsBody : List Char → Prop
  | nil : IsBody []
  | cons {piece body : List Char} (hfirst : IsPiece piece) (hothers : IsBody body) :
      IsBody (piece ++ body)

/-! ### Numbers -/

def AreDigits (text : List Char) : Prop := text ≠ [] ∧ ∀ c ∈ text, c.isDigit = true

/-- Digits that start with a zero only if they are a zero. -/
def IsWhole (text : List Char) : Prop :=
  AreDigits text ∧ (text.head? = some '0' → text = ['0'])

inductive IsFraction : List Char → Prop
  | nothing : IsFraction []
  | point {digits : List Char} (hdigits : AreDigits digits) : IsFraction ('.' :: digits)

inductive IsExponent : List Char → Prop
  | nothing : IsExponent []
  | power {letter : Char} {sign digits : List Char} (hletter : letter = 'e' ∨ letter = 'E')
      (hsign : sign ∈ [[], ['+'], ['-']]) (hdigits : AreDigits digits) :
      IsExponent (letter :: (sign ++ digits))

inductive IsNumber : List Char → Prop
  | parts {whole fraction exponent : List Char} (hwhole : IsWhole whole)
      (hfraction : IsFraction fraction) (hexponent : IsExponent exponent) :
      IsNumber (whole ++ (fraction ++ exponent))

/-! ### Values -/

/-- What a part of a document is, and what is found in it: elements by their values, members by what
their names and values are written as. -/
inductive Part
  | value
  | element (value : List Char)
  | elements (values : List (List Char))
  | member (member : List Char × List Char)
  | members (members : List (List Char × List Char))

inductive IsJson : Part → List Char → Prop
  | word {word : List Char}
      (hword : word ∈ [['n', 'u', 'l', 'l'], ['t', 'r', 'u', 'e'], ['f', 'a', 'l', 's', 'e']]) :
      IsJson .value word
  | number {text : List Char} (hnumber : IsNumber text) : IsJson .value text
  | negative {text : List Char} (hnumber : IsNumber text) : IsJson .value ('-' :: text)
  | string {body : List Char} (hbody : IsBody body) : IsJson .value ('"' :: (body ++ ['"']))
  | array {values : List (List Char)} {text : List Char}
      (helements : IsJson (.elements values) text) : IsJson .value ('[' :: (text ++ [']']))
  | object {members : List (List Char × List Char)} {text : List Char}
      (hmembers : IsJson (.members members) text) : IsJson .value ('{' :: (text ++ ['}']))
  | element {before value after : List Char} (hbefore : IsGap before) (hvalue : IsJson .value value)
      (hafter : IsGap after) : IsJson (.element value) (before ++ (value ++ after))
  | noElements {gap : List Char} (hgap : IsGap gap) : IsJson (.elements []) gap
  | lastElement {value text : List Char} (helement : IsJson (.element value) text) :
      IsJson (.elements [value]) text
  | nextElement {value next text others : List Char} {values : List (List Char)}
      (helement : IsJson (.element value) text)
      (hothers : IsJson (.elements (next :: values)) others) :
      IsJson (.elements (value :: next :: values)) (text ++ ',' :: others)
  | member {before name between value text : List Char} (hbefore : IsGap before)
      (hname : IsBody name) (hbetween : IsGap between) (helement : IsJson (.element value) text) :
      IsJson (.member (name, value)) (before ++ '"' :: (name ++ '"' :: (between ++ ':' :: text)))
  | noMembers {gap : List Char} (hgap : IsGap gap) : IsJson (.members []) gap
  | lastMember {member : List Char × List Char} {text : List Char}
      (hmember : IsJson (.member member) text) : IsJson (.members [member]) text
  | nextMember {member next : List Char × List Char} {text others : List Char}
      {members : List (List Char × List Char)} (hmember : IsJson (.member member) text)
      (hothers : IsJson (.members (next :: members)) others) :
      IsJson (.members (member :: next :: members)) (text ++ ',' :: others)

end DialogueScript.Json
