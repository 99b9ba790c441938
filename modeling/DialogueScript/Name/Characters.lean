import DialogueScript.Text.Blank

/-! # The characters of a name

Names may hold *excluded* characters, which mean nothing, and never hold *disallowed* ones, which
separate the parts of a statement. A name needs a *significant* character, one not excluded. -/
namespace DialogueScript.Name

/-- The excluded punctuation. Blank characters are excluded too. -/
def excludedSymbols : List Char :=
  [':', '!', '?', '\x27', '"', '{', '}', '@', '*', '/', '\\', '&', '#', '%', '\x60', '+', '<', '=',
    '>', '|', '$', '.']

def disallowedCharacters : List Char := [',', '(', ')']

def isExcluded (c : Char) : Bool := Text.isBlank c || excludedSymbols.contains c

def isDisallowed (c : Char) : Bool := disallowedCharacters.contains c

def disallowedIn? (text : List Char) : Option Char := text.find? isDisallowed

def hasSignificant (text : List Char) : Bool := text.any fun c => !isExcluded c

end DialogueScript.Name
