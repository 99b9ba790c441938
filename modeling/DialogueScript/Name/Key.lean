import DialogueScript.Name.Characters
import DialogueScript.Text.Lowercase

/-! # The key of a name

Two spellings of a name have one key: its lower case, with every run of excluded characters
collapsed to a separator. -/
namespace DialogueScript.Name

/-- Stands for a run of excluded characters. -/
def separator : Char := '-'

/-- Writes one separator for each run of excluded characters; `inRun` says that one was written for
the run that reaches into `text`. -/
def collapseFrom (inRun : Bool) : List Char → List Char
  | [] => []
  | c :: rest =>
    if isExcluded c then
      if inRun then collapseFrom true rest else separator :: collapseFrom true rest
    else c :: collapseFrom false rest

def collapse (text : List Char) : List Char := collapseFrom false text

/-- Runs at the ends count too: the key of `!Example` is `-example`. -/
def key (text : List Char) : List Char := collapse (Text.lowercase text)

end DialogueScript.Name
