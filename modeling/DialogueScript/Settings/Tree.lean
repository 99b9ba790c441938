import DialogueScript.Entries
import DialogueScript.Text.Lowercase
import DialogueScript.Toml.Value

/-! # Trees of settings

What several sources say, merged into one tree. Names in tables are lower case, those of tables in
arrays excepted. Every node remembers the file it came from, if it came from one. -/
namespace DialogueScript.Settings

inductive Leaf
  /-- Stands for an element that nothing was said about. -/
  | unset
  | boolean (value : Bool)
  | integer (value : Int)
  | float (value : Decimal.Real)
  | string (value : String)
  deriving DecidableEq, Repr

inductive Tree
  | leaf (origin : Option String) (value : Leaf)
  | array (origin : Option String) (items : List Tree)
  | table (origin : Option String) (entries : List (String × Tree))
  deriving Repr

abbrev Entries := List (String × Tree)

namespace Tree

def unset : Tree := .leaf none .unset

def empty : Tree := .table none []

mutual

def ofToml (origin : Option String) : Toml.Value → Tree
  | .string text => .leaf origin (.string text)
  | .integer value => .leaf origin (.integer value)
  | .float value => .leaf origin (.float value)
  | .boolean value => .leaf origin (.boolean value)
  | .moment text => .leaf origin (.string text)
  | .array items => .array origin (ofTomlItems origin items)
  | .tables items => .array origin (ofTomlItems origin items)
  | .table _ entries => .table origin (ofTomlEntries origin entries)

def ofTomlItems (origin : Option String) : List Toml.Value → List Tree
  | [] => []
  | item :: items => ofToml origin item :: ofTomlItems origin items

def ofTomlEntries (origin : Option String) : List (String × Toml.Value) → Entries
  | [] => []
  | (name, value) :: entries => (name, ofToml origin value) :: ofTomlEntries origin entries

end

def lowerName (name : String) : String := String.ofList (Text.lowercase name.toList)

/-- A table with an entry put into it. What is no table gives way to one. -/
def putEntry (tree : Tree) (name : String) (value : Tree) : Tree :=
  match tree with
  | .table origin entries => .table origin (put name value entries)
  | _ => .table none [(name, value)]

def entry? (name : String) : Tree → Option Tree
  | .table _ entries => entries.lookup name
  | _ => none

mutual

/-- Sets what a tree says of a name. A table adds to the table that is there, or gives way to a new
one entry by entry; any other value replaces. -/
def set (tree : Tree) (name : String) (value : Tree) : Tree :=
  match value with
  | .table _ entries =>
    tree.putEntry (lowerName name)
      (((tree.entry? (lowerName name)).getD empty).setAll entries)
  | .array origin items => tree.putEntry (lowerName name) (.array origin items)
  | .leaf origin content => tree.putEntry (lowerName name) (.leaf origin content)

def setAll (tree : Tree) : Entries → Tree
  | [] => tree
  | (name, value) :: entries => (tree.set name value).setAll entries

end

end Tree

end DialogueScript.Settings
