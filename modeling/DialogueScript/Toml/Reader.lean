import DialogueScript.Toml.Plain
import DialogueScript.Toml.Table
import DialogueScript.Toml.Text

/-! # Reading TOML

A document is read in two steps: its pairs and headers, then the tables that they make up. -/
namespace DialogueScript.Toml

mutual

/-- A value that `depth` more brackets and braces may enclose. -/
def readValue? : Nat → Nat → List Char → Option (Value × List Char)
  | 0, _, _ => none
  | fuel + 1, depth, text =>
    match text with
    | '[' :: rest => do
      guard (1 < depth)
      let (items, rest) ← readItems? fuel (depth - 1) rest
      pure (.array items, rest)
    | '{' :: rest => do
      guard (1 < depth)
      let (pairs, rest) ← match dropSpacing rest with
        | '}' :: after => pure ([], after)
        | _ => readPairs? fuel (depth - 1) rest
      let entries ← Entries.insertAll? [] pairs
      pure (.table .inline entries, rest)
    | c :: rest =>
      if c = '"' || c = '\x27' then
        (readString? (c :: rest)).map fun read => (.string (String.ofList read.1), read.2)
      else
        let word := takeWord (c :: rest)
        (plainValue? word).map fun value => (value, (c :: rest).drop word.length)
    | [] => none

/-- The items of an array, to its closing bracket. A comma may follow the last. -/
def readItems? : Nat → Nat → List Char → Option (List Value × List Char)
  | 0, _, _ => none
  | fuel + 1, depth, text =>
    match dropFiller false text with
    | ']' :: rest => some ([], rest)
    | item => do
      let (value, rest) ← readValue? fuel depth item
      match dropFiller false rest with
      | ']' :: after => pure ([value], after)
      | ',' :: after =>
        let (values, after) ← readItems? fuel depth after
        pure (value :: values, after)
      | _ => none

def readPairs? : Nat → Nat → List Char → Option (List (List String × Value) × List Char)
  | 0, _, _ => none
  | fuel + 1, depth, text => do
    let (key, rest) ← readKey? text
    let (value, rest) ← readValue? fuel depth (dropSpacing (← expect? '=' rest))
    match dropSpacing rest with
    | '}' :: after => pure ([(key, value)], after)
    | ',' :: after =>
      let (pairs, after) ← readPairs? fuel depth after
      pure ((key, value) :: pairs, after)
    | _ => none

end

/-- A pair on a line of its own. Every bracket takes two steps at most. -/
def readPair? (text : List Char) : Option ((List String × Value) × List Char) := do
  let (key, rest) ← readKey? text
  let (value, rest) ← readValue? (2 * text.length + 2) depthLimit (dropSpacing (← expect? '=' rest))
  pure ((key, value), ← endLine? rest)

def readHeader? (brackets : Nat) (text : List Char) : Option (List String × List Char) := do
  let (path, rest) ← readKey? text
  guard (rest.take brackets = List.replicate brackets ']')
  pure (path, ← endLine? (rest.drop brackets))

/-- Every line of a document, as the pairs that come first and the sections after them. -/
def readSections? : Nat → List Char → Option (List (List String × Value) × List Section)
  | 0, _ => none
  | fuel + 1, text =>
    match dropSpacing text with
    | [] => some ([], [])
    | '[' :: '[' :: rest => do
      let (path, rest) ← readHeader? 2 rest
      let (pairs, sections) ← readSections? fuel rest
      pure ([], ⟨true, path, pairs⟩ :: sections)
    | '[' :: rest => do
      let (path, rest) ← readHeader? 1 rest
      let (pairs, sections) ← readSections? fuel rest
      pure ([], ⟨false, path, pairs⟩ :: sections)
    | line =>
      match endLine? line with
      | some rest => readSections? fuel rest
      | none => do
        let (pair, rest) ← readPair? line
        let (pairs, sections) ← readSections? fuel rest
        pure (pair :: pairs, sections)

def dropMark : List Char → List Char
  | '\ufeff' :: rest => rest
  | text => text

/-- The entries of a document. Every line takes one step. -/
def read? (document : String) : Option Entries := do
  let text := dropMark document.toList
  let (pairs, sections) ← readSections? (text.length + 1) text
  document? pairs sections

end DialogueScript.Toml
