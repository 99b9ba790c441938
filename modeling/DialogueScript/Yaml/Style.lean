import DialogueScript.Yaml.Ambiguous

/-! # The style that a YAML text is written in

A text has a style it asks for, by what it holds, and falls back to quotes where that style cannot
show it. -/
namespace DialogueScript.Yaml

inductive Style
  | plain
  | singleQuoted
  | doubleQuoted
  | literal
  deriving DecidableEq, Repr

def isBreak (c : Char) : Bool := ['\n', '\r', '\u0085', '\u2028', '\u2029'].contains c

def isSpace (c : Char) : Bool := c = ' '

/-- Characters that set off an indicator. The end of a text does so too. -/
def isGap (c : Char) : Bool := isSpace c || c = '\t' || isBreak c || c = '\x00'

/-- Characters that every style can show; all others need escapes. -/
def isPrintable (c : Char) : Bool :=
  let n := c.toNat
  c = '\n' || (0x20 ≤ n && n ≤ 0x7e) || (0xa0 ≤ n && n ≤ 0xd7ff) ||
    (0xe000 ≤ n && n ≤ 0xfffd && n != 0xfeff) || 0x10000 ≤ n

/-- Characters that mean something at the start of a plain text. -/
def leadingIndicators : List Char :=
  ['#', ',', '[', ']', '{', '}', '&', '*', '!', '|', '>', '\x27', '"', '%', '@', '\x60']

def startsWithGap (text : List Char) : Bool := text.head?.all isGap

def hasLeadingIndicator : List Char → Bool
  | [] => false
  | c :: rest =>
    leadingIndicators.contains c || (['?', ':', '-'].contains c && startsWithGap rest) ||
      ['-', '-', '-'].isPrefixOf (c :: rest) || ['.', '.', '.'].isPrefixOf (c :: rest)

/-- A colon before a gap, or a number sign after one. -/
def hasInnerIndicator (afterGap : Bool) : List Char → Bool
  | [] => false
  | c :: rest =>
    (c = ':' && startsWithGap rest) || (c = '#' && afterGap) || hasInnerIndicator (isGap c) rest

def hasIndicator (text : List Char) : Bool :=
  hasLeadingIndicator text || hasInnerIndicator (text.head?.any isGap) (text.drop 1)

def hasPair (first second : Char → Bool) : List Char → Bool
  | c :: d :: rest => (first c && second d) || hasPair first second (d :: rest)
  | _ => false

def hasOuterGap (text : List Char) : Bool :=
  let isOuter := fun c => isSpace c || isBreak c
  text.head?.any isOuter || text.getLast?.any isOuter

/-- Whether only escapes keep a text: unprintable characters, or spaces that end a line. -/
def needsEscapes (text : List Char) : Bool :=
  hasPair isSpace isBreak text || text.any fun c => !isPrintable c

def allowsPlain (text : List Char) : Bool :=
  !(hasIndicator text || text.any isBreak || hasOuterGap text || needsEscapes text)

def allowsSingleQuotes (text : List Char) : Bool :=
  !(hasPair isBreak isSpace text || needsEscapes text)

def allowsLiteral (text : List Char) : Bool :=
  !(text.getLast?.any isSpace || needsEscapes text)

/-- Several lines ask for the literal style, ambiguous texts for quotes, the rest for neither. -/
def askedStyle (text : List Char) : Style :=
  if text.contains '\n' then .literal
  else if isAmbiguous text then .singleQuoted
  else .plain

def quotedStyle (text : List Char) : Style :=
  if allowsSingleQuotes text then .singleQuoted else .doubleQuoted

def style (text : List Char) : Style :=
  match askedStyle text with
  | .literal => if allowsLiteral text then .literal else .doubleQuoted
  | .plain => if allowsPlain text then .plain else quotedStyle text
  | _ => quotedStyle text

end DialogueScript.Yaml
