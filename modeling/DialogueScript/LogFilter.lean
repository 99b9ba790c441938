import DialogueScript.LogRule

/-! # Log filters

A filter is a list of rules with commas between them. Of the rules that are about an event the most
specific one says whether it is written. -/
namespace DialogueScript

abbrev LogFilter := List LogRule

namespace LogFilter

def errors : LogFilter := [⟨"", .nothing, some .error⟩]

/-- The texts between the commas. Empty ones do not count. -/
def parts (text : String) : List (List Char) :=
  (text.toList.splitOn ',').filter fun part => !part.isEmpty

/-- The rules that a text holds, or if there are none the rule to write errors only. -/
def ofText (text : String) : LogFilter :=
  match (parts text).filterMap fun part => (LogRule.read part).toOption with
  | [] => errors
  | rules => rules

def complaint? (part : List Char) : Option String :=
  match LogRule.read part with
  | .ok _ => none
  | .error error =>
    some ("ignoring \x60" ++ String.ofList part ++ "\x60: " ++ error.message ++ "\n")

def complaints (text : String) : String := String.join ((parts text).filterMap complaint?)

def ruleFor? (filter : LogFilter) (event : Event) : Option LogRule :=
  match filter.filter fun rule => rule.concerns event with
  | [] => none
  | rule :: rules => some (rules.foldl LogRule.moreSpecific rule)

def passes (filter : LogFilter) (event : Event) : Bool :=
  (filter.ruleFor? event).any fun rule => rule.allows event.level

def lines (filter : LogFilter) (events : List Event) : String :=
  String.join ((events.filter filter.passes).map fun event => event.line ++ "\n")

end LogFilter

end DialogueScript
