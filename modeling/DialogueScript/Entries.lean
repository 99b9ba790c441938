/-! # Entries under names -/
namespace DialogueScript

/-- Puts a value in the place of an old one, or at the end. -/
def put {α : Type} (name : String) (value : α) : List (String × α) → List (String × α)
  | [] => [(name, value)]
  | entry :: rest => if entry.1 = name then (name, value) :: rest else entry :: put name value rest

end DialogueScript
