import DialogueScript.Scalar

/-! # Writing JSON objects of plain values -/
namespace DialogueScript.Json

def hexFour (n : Nat) : List Char :=
  [Nat.digitChar (n / 4096 % 16), Nat.digitChar (n / 256 % 16), Nat.digitChar (n / 16 % 16),
    Nat.digitChar (n % 16)]

/-- A character of a string. Only the quote, the backslash and control characters are escaped. -/
def writtenCharacter (c : Char) : List Char :=
  if c = '"' then ['\\', '"']
  else if c = '\\' then ['\\', '\\']
  else if c = '\x08' then ['\\', 'b']
  else if c = '\x0c' then ['\\', 'f']
  else if c = '\n' then ['\\', 'n']
  else if c = '\r' then ['\\', 'r']
  else if c = '\t' then ['\\', 't']
  else if c.toNat < 0x20 then ['\\', 'u'] ++ hexFour c.toNat
  else [c]

def writtenString (text : List Char) : List Char :=
  '"' :: text.flatMap writtenCharacter ++ ['"']

def writtenScalar : Scalar → List Char
  | .text value => writtenString value.toList
  | .flag value => (flagText value).toList
  | .number value => Nat.toDigits 10 value

def compact (fields : List Field) : List Char :=
  let member : Field → List Char := fun field =>
    writtenString field.1.toList ++ [':'] ++ writtenScalar field.2
  ['{'] ++ [','].intercalate (fields.map member) ++ ['}']

def pretty (fields : List Field) : List Char :=
  let member : Field → List Char := fun field =>
    ['\n', ' ', ' '] ++ writtenString field.1.toList ++ [':', ' '] ++ writtenScalar field.2
  ['{'] ++ [','].intercalate (fields.map member) ++ ['\n', '}']

def written (isPretty : Bool) (fields : List Field) : String :=
  String.ofList (if isPretty then pretty fields else compact fields)

end DialogueScript.Json
