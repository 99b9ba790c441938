import DialogueScript.Text.WordCharacter

/-! # Reserved words

The words that statements are built from. One counts only where it stands alone, between two word
boundaries; the case of its ASCII letters does not matter. -/
namespace DialogueScript.Name

def reservedWords : List String :=
  ["and", "or", "when", "not", "is", "are", "enters", "enter", "exits", "exit", "leads", "to",
    "set", "clear", "jump"]

def startsInWord (text : List Char) : Bool := text.head?.any Text.isWordCharacter

/-- Whether a word boundary lies before `text`; `inWord` says whether a word character precedes. -/
def isBoundary (inWord : Bool) (text : List Char) : Bool := inWord != startsInWord text

/-- What `text` begins with, if that is `word` up to the case of ASCII letters. -/
def writtenAt? (word text : List Char) : Option (List Char) :=
  let written := text.take word.length
  if written.map Char.toLower = word then some written else none

def standingAt? (inWord : Bool) (text word : List Char) : Option (List Char) := do
  let written ← writtenAt? word text
  guard (isBoundary inWord text)
  guard (isBoundary (written.getLast?.any Text.isWordCharacter) (text.drop word.length))
  pure written

/-- The first of `words` that stands alone, by position in the text and then by place in the list.
`inWord` says whether a word character precedes the text. -/
def firstStanding? (words : List (List Char)) (inWord : Bool) : List Char → Option (List Char)
  | [] => none
  | c :: rest =>
    (words.findSome? (standingAt? inWord (c :: rest))).or
      (firstStanding? words (Text.isWordCharacter c) rest)

def reservedIn? (text : List Char) : Option (List Char) :=
  firstStanding? (reservedWords.map String.toList) false text

end DialogueScript.Name
