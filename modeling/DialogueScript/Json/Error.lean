import DialogueScript.Decimal.Notation
import DialogueScript.Rejection

/-! # Why a JSON document was not decoded -/
namespace DialogueScript.Json

inductive Found
  | null
  | boolean (value : Bool)
  | integer (value : Int)
  | float (negative : Bool) (size : Decimal.Double)
  | string (value : String)
  | sequence
  | map
  deriving DecidableEq, Repr

/-- Of two equally near decimals of a number the one with the even last digit is shown. -/
def Found.text : Found → String
  | null => "null"
  | boolean value => "boolean \x60" ++ (if value then "true" else "false") ++ "\x60"
  | integer value => "integer \x60" ++ toString value ++ "\x60"
  | float negative size =>
    let digits := (size.shortest .toEven).balanced
    "floating point \x60" ++ String.ofList (Decimal.signed negative digits) ++ "\x60"
  | string value => "string " ++ Text.quoted value
  | sequence => "sequence"
  | map => "map"

inductive Misfit
  | wrongType (found : Found) (wanted : String)
  | negative (value : Int)
  | repeatedField (name : String)
  | missingField (name : String)
  /-- An array that ends before the element of this index, which it needs. -/
  | tooShort (index : Nat) (record : String) (size : Nat)
  /-- The parts are there, and no value can be built from them. -/
  | rejected (rejection : Rejection)
  deriving DecidableEq, Repr

def Misfit.message : Misfit → String
  | wrongType found wanted => "invalid type: " ++ found.text ++ ", expected " ++ wanted
  | negative value => "invalid value: integer \x60" ++ toString value ++ "\x60, expected usize"
  | repeatedField name => "duplicate field \x60" ++ name ++ "\x60"
  | missingField name => "missing field \x60" ++ name ++ "\x60"
  | tooShort index record size =>
    "invalid length " ++ Nat.repr index ++ ", expected struct " ++ record ++ " with " ++
      Nat.repr size ++ " elements"
  | rejected rejection => rejection.message

/-- A document is read once, from its start to its end; what goes wrong first is the error. -/
inductive DecodeError
  /-- No JSON begins as the document does. -/
  | malformed
  /-- The document ends too early. -/
  | truncated
  | misfit (cause : Misfit)
  deriving DecidableEq, Repr

end DialogueScript.Json
