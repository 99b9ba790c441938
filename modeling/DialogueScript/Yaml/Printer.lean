import DialogueScript.Scalar
import DialogueScript.Yaml.Style

/-! # Writing YAML mappings of plain values

One member a line, unless its text has lines of its own. -/
namespace DialogueScript.Yaml

def indent : List Char := [' ', ' ']

/-- The inside of single quotes: quotes are doubled, and what follows a break is indented. -/
def singleBody (afterBreak : Bool) : List Char → List Char
  | [] => if afterBreak then indent else []
  | c :: rest =>
    if isBreak c then c :: singleBody true rest
    else (if afterBreak then indent else []) ++
      (if c = '\x27' then ['\x27', '\x27'] else [c]) ++ singleBody false rest

def hexDigits (width n : Nat) : List Char :=
  let digits := (Nat.toDigits 16 n).map Char.toUpper
  List.replicate (width - digits.length) '0' ++ digits

def namedEscapes : List (Char × Char) :=
  [('\x00', '0'), ('\x07', 'a'), ('\x08', 'b'), ('\t', 't'), ('\n', 'n'), ('\x0b', 'v'),
    ('\x0c', 'f'), ('\r', 'r'), ('\x1b', 'e'), ('"', '"'), ('\\', '\\'), ('\u0085', 'N'),
    ('\u2028', 'L'), ('\u2029', 'P')]

def doubleCharacter (c : Char) : List Char :=
  match namedEscapes.lookup c with
  | some letter => ['\\', letter]
  | none =>
    if isPrintable c then [c]
    else if c.toNat ≤ 0xff then ['\\', 'x'] ++ hexDigits 2 c.toNat
    else if c.toNat ≤ 0xffff then ['\\', 'u'] ++ hexDigits 4 c.toNat
    else ['\\', 'U'] ++ hexDigits 8 c.toNat

/-- The lines of a literal text; `atStart` says that the next character starts one. -/
def literalBody (atStart : Bool) : List Char → List Char
  | [] => []
  | c :: rest =>
    if isBreak c then c :: literalBody true rest
    else (if atStart then indent else []) ++ c :: literalBody false rest

/-- Written out only where the first line does not show how far the text is indented. -/
def indentHint (text : List Char) : List Char :=
  if text.head?.any fun c => isSpace c || isBreak c then ['2'] else []

/-- How a reader is to treat the breaks at the end: drop the last, keep all, or keep one. -/
def breakHint (text : List Char) : List Char :=
  match text.reverse with
  | [] => ['-']
  | [c] => if isBreak c then ['+'] else ['-']
  | c :: d :: _ => if !isBreak c then ['-'] else if isBreak d then ['+'] else []

def writtenText (text : List Char) : List Char :=
  match style text with
  | .plain => text
  | .singleQuoted => '\x27' :: singleBody false text ++ ['\x27']
  | .doubleQuoted => '"' :: text.flatMap doubleCharacter ++ ['"']
  | .literal => '|' :: indentHint text ++ breakHint text ++ '\n' :: literalBody true text

def writtenScalar : Scalar → List Char
  | .text value => writtenText value.toList
  | .flag value => (flagText value).toList
  | .number value => Nat.toDigits 10 value

/-- A member. A value that ends with a break ends its line by that. -/
def member (field : Field) : List Char :=
  let value := writtenScalar field.2
  field.1.toList ++ [':', ' '] ++ value ++ (if value.getLast?.any isBreak then [] else ['\n'])

def written (fields : List Field) : String := String.ofList (fields.flatMap member)

end DialogueScript.Yaml
