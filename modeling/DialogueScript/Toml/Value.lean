import DialogueScript.Decimal.Real

/-! # TOML values -/
namespace DialogueScript.Toml

/-- How a table came to be, which decides what may still be added to it. -/
inductive TableOrigin
  /-- It is complete where it stands, in braces. -/
  | inline
  /-- It has a header of its own. -/
  | headed
  /-- A header names it on the way to another table. -/
  | implied
  /-- A dotted key names it. -/
  | dotted
  deriving DecidableEq, Repr

inductive Value
  | string (text : String)
  | integer (value : Int)
  | float (value : Decimal.Real)
  | boolean (value : Bool)
  /-- A date, a time or both, in its normal form. -/
  | moment (text : String)
  | array (items : List Value)
  /-- An array of the tables that headers in double brackets begin. -/
  | tables (items : List Value)
  | table (origin : TableOrigin) (entries : List (String × Value))
  deriving Repr

abbrev Entries := List (String × Value)

end DialogueScript.Toml
