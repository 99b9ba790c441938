import DialogueScript.Text.CaseProperties
import DialogueScript.Text.CaseRange

/-! # The lower case of a text

Each character is mapped on its own, with two exceptions: `İ` becomes two characters, and `Σ` is
written `ς` where it ends a word. -/
namespace DialogueScript.Text

def lowerCharacter (c : Char) : List Char :=
  if c = 'İ' then ['i', '\u0307']
  else match caseRanges.find? (·.covers c.toNat) with
    | some r => [Char.ofNat (c.toNat + r.shift).toNat]
    | none => [c]

def meetsCased (text : List Char) : Bool :=
  (text.find? fun c => !isCaseIgnorable c).any isCased

/-- A capital sigma ends a word when a letter precedes it and none follows, marks and other
case-ignorable characters aside. `afterCased` says whether a letter precedes `text`. -/
def lowerAfter (afterCased : Bool) : List Char → List Char
  | [] => []
  | c :: rest =>
    (if c = 'Σ' && afterCased && !meetsCased rest then ['ς'] else lowerCharacter c) ++
      lowerAfter (if isCaseIgnorable c then afterCased else isCased c) rest

def lowercase (text : List Char) : List Char := lowerAfter false text

end DialogueScript.Text
