import DialogueScript.Text.Digits

/-! # Space, strings and keys of TOML

Readers return what they read and the rest of the text, or nothing if the text is not TOML. -/
namespace DialogueScript.Toml

def isSpacing (c : Char) : Bool := c = ' ' || c = '\t'

def dropSpacing (text : List Char) : List Char := text.dropWhile isSpacing

/-- Characters of comments and literal strings: all but control characters. A tab is none. -/
def isPlain (c : Char) : Bool := c = '\t' || (0x20 ≤ c.toNat && c.toNat != 0x7f)

def newline? : List Char → Option (List Char)
  | '\n' :: rest => some rest
  | '\r' :: '\n' :: rest => some rest
  | _ => none

def dropComment : List Char → List Char
  | '#' :: rest => rest.dropWhile isPlain
  | text => text

def endLine? (text : List Char) : Option (List Char) :=
  match dropComment (dropSpacing text) with
  | [] => some []
  | rest => newline? rest

/-- Drops space, line ends and comments; `inComment` says that a comment is being dropped. -/
def dropFiller (inComment : Bool) : List Char → List Char
  | [] => []
  | '\r' :: '\n' :: rest => dropFiller false rest
  | c :: rest =>
    if c = '\n' then dropFiller false rest
    else if inComment then if isPlain c then dropFiller true rest else c :: rest
    else if c = '#' then dropFiller true rest
    else if isSpacing c then dropFiller false rest
    else c :: rest

def letterEscapes : List (Char × Char) :=
  [('b', '\x08'), ('t', '\t'), ('n', '\n'), ('f', '\x0c'), ('r', '\r'), ('"', '"'), ('\\', '\\')]

def readCode? (width : Nat) (text : List Char) : Option (Char × List Char) := do
  let digits := text.take width
  guard (digits.length = width)
  let code ← Text.digitsValue? 16 digits
  guard code.isValidChar
  pure (Char.ofNat code, text.drop width)

def readEscape? : List Char → Option (Char × List Char)
  | 'u' :: rest => readCode? 4 rest
  | 'U' :: rest => readCode? 8 rest
  | c :: rest => (letterEscapes.lookup c).map fun meant => (meant, rest)
  | [] => none

def readBasic? : Nat → List Char → Option (List Char × List Char)
  | 0, _ => none
  | _ + 1, [] => none
  | fuel + 1, c :: rest =>
    if c = '"' then some ([], rest)
    else if c = '\\' then do
      let (meant, after) ← readEscape? rest
      let (more, after) ← readBasic? fuel after
      pure (meant :: more, after)
    else if isPlain c then (readBasic? fuel rest).map fun read => (c :: read.1, read.2)
    else none

def readLiteral? : List Char → Option (List Char × List Char)
  | [] => none
  | c :: rest =>
    if c = '\x27' then some ([], rest)
    else if isPlain c then (readLiteral? rest).map fun read => (c :: read.1, read.2)
    else none

def countQuotes (quote : Char) (text : List Char) : Nat := (text.takeWhile (· = quote)).length

/-- After a backslash at the end of a line, what follows the space before the next text. -/
def continueLine? (text : List Char) : Option (List Char) := do
  let rest ← newline? (dropSpacing text)
  pure (dropBlankLines rest)
where
  dropBlankLines : List Char → List Char
    | [] => []
    | '\r' :: '\n' :: rest => dropBlankLines rest
    | c :: rest => if c = '\n' || isSpacing c then dropBlankLines rest else c :: rest

/-- The rest of a string over several lines, which three quotes end; one or two quotes more before
those belong to the string. Every line end is read as a line feed. Only a string in double quotes
has escapes. -/
def readLines? (quote : Char) : Nat → List Char → Option (List Char × List Char)
  | 0, _ => none
  | _ + 1, [] => none
  | fuel + 1, c :: rest =>
    let keep (kept : List Char) (after : List Char) : Option (List Char × List Char) :=
      (readLines? quote fuel after).map fun read => (kept ++ read.1, read.2)
    if c = quote then
      let count := countQuotes quote (c :: rest)
      if count < 3 then keep [c] rest
      else if count ≤ 5 then some (List.replicate (count - 3) quote, rest.drop (count - 1))
      else none
    else if c = '\\' && quote = '"' then
      match continueLine? rest with
      | some after => keep [] after
      | none => do
        let (meant, after) ← readEscape? rest
        keep [meant] after
    else match newline? (c :: rest) with
      | some after => keep ['\n'] after
      | none => if isPlain c then keep [c] rest else none

/-- A string that opens with three quotes. A line end right after them is no part of it. -/
def readLong? (quote : Char) (text : List Char) : Option (List Char × List Char) :=
  readLines? quote (text.length + 1) ((newline? text).getD text)

def readString? : List Char → Option (List Char × List Char)
  | '"' :: '"' :: '"' :: rest => readLong? '"' rest
  | '"' :: rest => readBasic? (rest.length + 1) rest
  | '\x27' :: '\x27' :: '\x27' :: rest => readLong? '\x27' rest
  | '\x27' :: rest => readLiteral? rest
  | _ => none

def isBare (c : Char) : Bool := c.isAlphanum || c = '_' || c = '-'

def readName? : List Char → Option (String × List Char)
  | '"' :: rest =>
    (readBasic? (rest.length + 1) rest).map fun read => (String.ofList read.1, read.2)
  | '\x27' :: rest => (readLiteral? rest).map fun read => (String.ofList read.1, read.2)
  | text =>
    let name := text.takeWhile isBare
    if name.isEmpty then none else some (String.ofList name, text.drop name.length)

def readNames? : Nat → List Char → Option (List String × List Char)
  | 0, _ => none
  | fuel + 1, text => do
    let (name, rest) ← readName? (dropSpacing text)
    match dropSpacing rest with
    | '.' :: after =>
      let (names, after) ← readNames? fuel after
      pure (name :: names, after)
    | after => pure ([name], after)

/-- Values are nested less deep than this, and keys have fewer names. -/
def depthLimit : Nat := 80

def readKey? (text : List Char) : Option (List String × List Char) := do
  let (names, rest) ← readNames? (text.length + 1) text
  guard (names.length < depthLimit)
  pure (names, rest)

end DialogueScript.Toml
