import DialogueScript.Event

/-! # Computations that log -/
namespace DialogueScript

/-- A computation that can fail. It adds to a log as it goes, and what it added before it failed
stays. -/
abbrev Logged (ε α : Type) := ExceptT ε (StateM (List Event)) α

namespace Logged

variable {ε α : Type}

def emit (event : Event) : Logged ε Unit := modify fun log => log ++ [event]

def checked (check : Except ε α) (event : ε → Event) : Logged ε α :=
  match check with
  | .ok value => pure value
  | .error cause => do
    emit (event cause)
    throw cause

def events (action : Logged ε α) : List Event := (action.run.run []).2

end Logged

end DialogueScript
