/-! # Output formats -/
namespace DialogueScript

inductive Format
  | text
  | json
  | yaml
  deriving DecidableEq, Repr

namespace Format

def all : List Format := [text, json, yaml]

def name : Format → String
  | text => "text"
  | json => "json"
  | yaml => "yaml"

def ofName? (name : String) : Option Format := all.find? fun format => format.name = name

def unknownMessage (name : String) : String :=
  "unknown format '" ++ name ++ "' (available: " ++ ", ".intercalate (all.map Format.name) ++ ")"

end Format

end DialogueScript
