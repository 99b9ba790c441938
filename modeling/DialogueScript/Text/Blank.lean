import DialogueScript.Text.CodeRange

/-! # Blank characters: the Unicode property `White_Space` -/
namespace DialogueScript.Text

/-- The 25 characters that have the property, in order. -/
def blankRanges : List CodeRange := [
  (0x9, 0xd), (0x20, 0x20), (0x85, 0x85), (0xa0, 0xa0), (0x1680, 0x1680), (0x2000, 0x200a),
  (0x2028, 0x2029), (0x202f, 0x202f), (0x205f, 0x205f), (0x3000, 0x3000)]

def isBlank (c : Char) : Bool := inRanges blankRanges c

def hasOuterBlank (text : List Char) : Bool :=
  text.head?.any isBlank || text.getLast?.any isBlank

def dropFinalBlank (text : List Char) : List Char := (text.reverse.dropWhile isBlank).reverse

def dropOuterBlank (text : List Char) : List Char := dropFinalBlank (text.dropWhile isBlank)

end DialogueScript.Text
