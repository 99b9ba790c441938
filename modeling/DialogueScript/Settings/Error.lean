import DialogueScript.Decimal.Real
import DialogueScript.Settings.Tree
import DialogueScript.Text.Quoted

/-! # Why settings could not be loaded -/
namespace DialogueScript.Settings

inductive Found
  | leaf (value : Leaf)
  | sequence
  | map
  deriving DecidableEq, Repr

def Found.text : Found → String
  | leaf .unset => "unit value"
  | leaf (.boolean value) => "boolean \x60" ++ (if value then "true" else "false") ++ "\x60"
  | leaf (.integer value) => "integer \x60" ++ toString value ++ "\x60"
  | leaf (.float value) => "floating point \x60" ++ String.ofList value.text ++ "\x60"
  | leaf (.string value) => "string " ++ Text.quoted value
  | sequence => "sequence"
  | map => "map"

def Tree.found : Tree → Found
  | .leaf _ value => .leaf value
  | .array _ _ => .sequence
  | .table _ _ => .map

inductive Error
  /-- There is no file at a path. -/
  | notFound (path : String)
  /-- There is a file at a path, but the system does not let it be read. -/
  | unreadable (reason : String)
  /-- What a source holds is not TOML. The reader of TOML reports why. -/
  | notToml (report : String) (origin : Option String)
  /-- What is at a key is no boolean. -/
  | notBoolean (found : Found) (key : String) (origin : Option String)
  /-- What there is for the output is neither a table nor an array. -/
  | notOutput (found : Found)
  | missingField (name : String)
  /-- An array for the output that ends before an element it needs. -/
  | tooShort (size : Nat)
  | unknownFormat (name : String)
  /-- A format that is neither a string nor a table with one name. -/
  | notFormat
  deriving DecidableEq, Repr

/-- Names the file that something is in. What is in no file is just there. -/
def inFile : Option String → String
  | some path => " in " ++ path
  | none => ""

def Error.message : Error → String
  | notFound path => "configuration file \"" ++ path ++ "\" not found"
  | unreadable reason => reason
  | notToml report origin => report ++ inFile origin
  | notBoolean found key origin =>
    "invalid type: " ++ found.text ++ ", expected a boolean for key \x60" ++ key ++ "\x60" ++
      inFile origin
  | notOutput found => "invalid type: " ++ found.text ++ ", expected struct OutputConfig"
  | missingField name => "missing field \x60" ++ name ++ "\x60"
  | tooShort size =>
    "invalid length " ++ Nat.repr size ++ ", expected struct OutputConfig with 2 elements"
  | unknownFormat name => "enum Format does not have variant constructor " ++ name
  | notFormat =>
    "value of enum Format should be represented by either string or table with exactly one key"

end DialogueScript.Settings
