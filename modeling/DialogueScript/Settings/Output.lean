import DialogueScript.Format
import DialogueScript.Settings.Error
import DialogueScript.Settings.Order

/-! # Settings of the output -/
namespace DialogueScript

structure Settings where
  format : Format
  /-- Whether JSON is indented. -/
  pretty : Bool
  deriving DecidableEq, Repr

namespace Settings

/-- The format of a name in any case. -/
def formatNamed (name : String) : Except Error Format :=
  match Format.all.find? fun format => format.name = Tree.lowerName name with
  | some format => .ok format
  | none => .error (.unknownFormat name)

/-- A format is a string or the one name in a table. -/
def formatOf : Tree → Except Error Format
  | .leaf _ (.string name) => formatNamed name
  | .table _ [(name, _)] => formatNamed name
  | _ => .error .notFormat

def trueWords : List String := ["1", "true", "on", "yes"]

def falseWords : List String := ["0", "false", "off", "no"]

/-- A flag is a boolean, a number that is zero or not, or a word. -/
def flagOf (key : String) : Tree → Except Error Bool
  | .leaf _ (.boolean value) => .ok value
  | .leaf _ (.integer value) => .ok (value ≠ 0)
  | .leaf _ (.float value) => .ok (!value.isZero)
  | .leaf origin (.string text) =>
    let word := Tree.lowerName text
    if trueWords.contains word then .ok true
    else if falseWords.contains word then .ok false
    else .error (.notBoolean (.leaf (.string word)) key origin)
  | .leaf origin .unset => .error (.notBoolean (.leaf .unset) key origin)
  | .array origin _ => .error (.notBoolean .sequence key origin)
  | .table origin _ => .error (.notBoolean .map key origin)

structure Partial where
  format : Option Format
  pretty : Option Bool
  deriving DecidableEq, Repr

def Partial.nothing : Partial := ⟨none, none⟩

def Partial.readEntry (read : Partial) (entry : String × Tree) : Except Error Partial := do
  if entry.1 = "format" then return { read with format := some (← formatOf entry.2) }
  else if entry.1 = "pretty" then
    return { read with pretty := some (← flagOf "output.pretty" entry.2) }
  else return read

/-- The settings of a table. What is there is read before what is missing is noticed. -/
def ofEntries (entries : Entries) : Except Error Settings := do
  match ← entries.foldlM Partial.readEntry .nothing with
  | ⟨some format, some pretty⟩ => .ok ⟨format, pretty⟩
  | ⟨none, _⟩ => .error (.missingField "format")
  | ⟨some _, none⟩ => .error (.missingField "pretty")

def ofItems : List Tree → Except Error Settings
  | [] => .error (.tooShort 0)
  | first :: items => do
    let format ← formatOf first
    match items with
    | [] => .error (.tooShort 1)
    | second :: _ => return ⟨format, ← flagOf "output[1]" second⟩

def ofTree (order : Order) (tree : Tree) : Except Error Settings :=
  match tree.entry? "output" with
  | none => .error (.missingField "output")
  | some (.table _ entries) => ofEntries (order.arrange .read entries)
  | some (.array _ items) => ofItems items
  | some (.leaf _ value) => .error (.notOutput (.leaf value))

end Settings

end DialogueScript
