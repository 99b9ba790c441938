import DialogueScript.Text.EscapedCharacter

/-! # Quoted text

A text or a character between delimiters, on one line and unambiguous: the delimiter, the
backslash and all that would not show as itself are escaped. -/
namespace DialogueScript.Text

/-- A code point in braces, in the fewest lower-case hexadecimal digits. -/
def hexEscape (c : Char) : List Char :=
  ['\\', 'u', '{'] ++ Nat.toDigits 16 c.toNat ++ ['}']

def quotedCharacter (delimiter c : Char) : List Char :=
  if c = '\t' then ['\\', 't']
  else if c = '\r' then ['\\', 'r']
  else if c = '\n' then ['\\', 'n']
  else if c = '\x00' then ['\\', '0']
  else if c = '\\' || c = delimiter then ['\\', c]
  else if isEscapedCharacter c then hexEscape c
  else [c]

def quotedIn (delimiter : Char) (text : List Char) : List Char :=
  delimiter :: text.flatMap (quotedCharacter delimiter) ++ [delimiter]

def quoted (text : String) : String := String.ofList (quotedIn '"' text.toList)

def quotedChar (c : Char) : String := String.ofList (quotedIn '\x27' [c])

end DialogueScript.Text
