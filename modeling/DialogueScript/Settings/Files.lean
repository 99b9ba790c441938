import DialogueScript.Settings.Order

/-! # The files that settings are read from -/
namespace DialogueScript.Settings

/-- A file holds a text, or cannot be read for a reason that the system gives. -/
inductive File
  | text (content : String)
  | unreadable (reason : String)
  deriving DecidableEq, Repr

/-- The files at paths from the top directory, for those paths at which there is one. -/
abbrev Files := String → Option File

namespace Files

def writeBefore (c : Char) : List (List Char) → List (List Char)
  | [] => [[c]]
  | part :: parts => if c = '/' then [] :: part :: parts else (c :: part) :: parts

def parts (path : String) : List String :=
  (path.toList.foldr writeBefore [[]]).map String.ofList

/-- The parts of a path that lead somewhere else than where they start. -/
def steps (path : String) : List String :=
  (parts path).filter fun part => part ≠ "" && part ≠ "."

/-- The path from the top directory of what is at a path in a directory. -/
def pathFrom (directory path : String) : String :=
  if path.startsWith "/" then path
  else if directory.endsWith "/" then directory ++ path
  else directory ++ "/" ++ path

/-- The way from one place to another, both given by their ways from the top directory. -/
def way : List String → List String → List String
  | [], steps => steps
  | names, [] => names.map fun _ => ".."
  | name :: names, step :: steps =>
    if name = step then way names steps else (name :: names).map (fun _ => "..") ++ step :: steps

/-- A path from the top directory as it is shown in a directory: the way there, without superfluous
parts. Parts that lead upwards stay. -/
def shown (directory path : String) : String := "/".intercalate (way (steps directory) (steps path))

/-- The path of the file of the same name with an extension added. There is none for a path that
does not end with a name. -/
def withExtension? (path : String) : Option String :=
  match (parts path).reverse.dropWhile fun part => part = "" || part = "." with
  | [] => none
  | name :: before =>
    if name = ".." then none else some ("/".intercalate (before.reverse ++ [name ++ ".toml"]))

/-- The file at a path, or else with an extension added to it, and its path. -/
def find? (files : Files) (path : String) : Option (String × File) :=
  match files path with
  | some file => some (path, file)
  | none => do
    let extended ← withExtension? path
    pure (extended, ← files extended)

end Files

/-- What settings depend on, besides the files that are named and the format that is asked for. -/
structure World where
  files : Files
  /-- The path from the top directory of the directory that the program runs in. -/
  directory : String
  order : Order
  /-- What the reader of TOML reports of a text that is none. -/
  report : String → String

namespace World

/-- There are no files, and the program runs in the top directory. -/
def empty : World := ⟨fun _ => none, "/", .written, fun _ => ""⟩

def find? (world : World) (path : String) : Option (String × File) :=
  world.files.find? (Files.pathFrom world.directory path)

end World

end DialogueScript.Settings
