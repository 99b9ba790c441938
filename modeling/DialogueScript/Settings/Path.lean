import DialogueScript.Settings.Tree
import DialogueScript.Text.Digits

/-! # Paths into trees of settings

Names joined by points, and indices in brackets: `output.format`, `output[1]`. -/
namespace DialogueScript.Settings

inductive Step
  | child (name : String)
  /-- A negative index counts from the end. -/
  | element (index : Int)
  deriving DecidableEq, Repr

/-- A path of one step at least, its last step apart. -/
structure Path where
  parents : List Step
  last : Step
  deriving DecidableEq, Repr

namespace Path

def ofName (name : String) : Path := ⟨[], .child name⟩

def isNameCharacter (c : Char) : Bool := c.isAlphanum || c = ' ' || c = '_' || c = '-'

def isSpacing (c : Char) : Bool := c = ' ' || c = '\t'

def readName? (text : List Char) : Option (String × List Char) :=
  let name := text.takeWhile isNameCharacter
  if name.isEmpty then none else some (String.ofList name, text.drop name.length)

/-- An index of 64 bits between spaces, after its bracket, and what follows the closing one. -/
def readIndex? (text : List Char) : Option (Int × List Char) := do
  let text := text.dropWhile isSpacing
  let isNegative := text.head? = some '-'
  let text := if isNegative then text.drop 1 else text
  let digits := text.takeWhile Char.isDigit
  let size ← Text.digitsValue? 10 digits
  let index : Int := if isNegative then -size else size
  guard (Text.isSigned64 index)
  match (text.drop digits.length).dropWhile isSpacing with
  | ']' :: rest => pure (index, rest)
  | _ => none

/-- The steps after the first. Every step takes one character at least. -/
def readSteps? : Nat → List Char → Option (List Step)
  | _, [] => some []
  | 0, _ => none
  | fuel + 1, c :: rest => do
    let (step, rest) ←
      if c = '.' then (readName? rest).map fun read => (Step.child read.1, read.2)
      else if c = '[' then (readIndex? rest).map fun read => (Step.element read.1, read.2)
      else none
    pure (step :: (← readSteps? fuel rest))

def parse? (text : String) : Option Path := do
  let (name, rest) ← readName? text.toList
  let steps := Step.child name :: (← readSteps? rest.length rest)
  pure ⟨steps.dropLast, steps.getLast?.getD (.child name)⟩

end Path

namespace Tree

def place (index : Int) (size : Nat) : Nat :=
  if 0 ≤ index then index.toNat else size - index.natAbs

/-- An array with an item put into it, after unset items if it is too short. What is no array gives
way to one. -/
def putItem (index : Int) (change : Tree → Tree) (tree : Tree) : Tree :=
  let (origin, items) := match tree with
    | .array origin items => (origin, items)
    | _ => (none, [])
  let i := place index items.length
  let items := items ++ List.replicate (i + 1 - items.length) unset
  .array origin (items.modify i change)

/-- Changes the node that the steps lead to, making it where it is missing. -/
def alter (change : Tree → Tree) : List Step → Tree → Tree
  | [], tree => change tree
  | .child name :: steps, tree =>
    let name := lowerName name
    tree.putEntry name (alter change steps ((tree.entry? name).getD unset))
  | .element index :: steps, tree => putItem index (alter change steps) tree

def setPath (tree : Tree) (path : Path) (value : Tree) : Tree :=
  alter
    (fun parent => match path.last with
      | .child name => parent.set name value
      | .element index => putItem index (fun _ => value) parent)
    path.parents tree

end Tree

end DialogueScript.Settings
