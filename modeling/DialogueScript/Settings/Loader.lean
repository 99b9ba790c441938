import DialogueScript.Settings.Files
import DialogueScript.Settings.Output
import DialogueScript.Settings.Path
import DialogueScript.Toml.Reader

/-! # Loading settings

Files are laid over built-in defaults, in order, and a format that is asked for over all of them. -/
namespace DialogueScript.Settings

structure Loader where
  paths : List String
  format : Option Format
  deriving DecidableEq, Repr

namespace Loader

def defaults : Loader := ⟨[], none⟩

/-- Lays a file over those before it. The file has to be there. -/
def withFile (loader : Loader) (path : String) : Loader :=
  { loader with paths := loader.paths ++ [path] }

def withFormat (loader : Loader) (format : Format) : Loader := { loader with format := some format }

/-- The settings of a program that nobody configured. -/
def defaultText : String := "\n".intercalate [
  "# Built-in defaults for the skit inspection tool.",
  "# Layer overrides from a file passed with --config.",
  "",
  "[output]",
  "# One of: text, json, yaml",
  "format = \"text\"",
  "# Indent JSON output",
  "pretty = true",
  ""]

/-- Sets an entry of a source. Its name is a path, if it can be read as one. -/
def setEntry (tree : Tree) (entry : String × Tree) : Tree :=
  tree.setPath ((Path.parse? entry.1).getD (.ofName entry.1)) entry.2

/-- Lays a text over a tree. The sources are numbered, the defaults being the first. -/
def addText (world : World) (source : Nat) (origin : Option String) (tree : Tree) (text : String) :
    Except Error Tree :=
  match Toml.read? text with
  | none => .error (.notToml (world.report text) origin)
  | some entries =>
    .ok ((world.order.entries source (Tree.ofTomlEntries origin entries)).foldl setEntry tree)

def addFile (world : World) (tree : Tree) : String × Nat → Except Error Tree
  | (path, source) =>
    match world.find? path with
    | none => .error (.notFound path)
    | some (_, .unreadable reason) => .error (.unreadable reason)
    | some (place, .text text) =>
      addText world source (Files.shown world.directory place) tree
        (String.ofList (Toml.dropMark text.toList))

def addFormat (tree : Tree) : Option Format → Tree
  | none => tree
  | some format =>
    tree.setPath ⟨[.child "output"], .child "format"⟩ (.leaf none (.string format.name))

/-- The tree of all sources. The first file that cannot be read is the error. -/
def tree (world : World) (loader : Loader) : Except Error Tree := do
  let defaults ← addText world 0 none .empty defaultText
  return addFormat (← (loader.paths.zipIdx 1).foldlM (addFile world) defaults) loader.format

def build (world : World) (loader : Loader) : Except Error Settings := do
  ofTree world.order (← loader.tree world)

end Loader

end DialogueScript.Settings
