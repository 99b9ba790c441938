import DialogueScript.Format
import DialogueScript.Json.Printer
import DialogueScript.Summary
import DialogueScript.Yaml.Printer

/-! # Rendering lexemes -/
namespace DialogueScript

/-- The text of a lexeme in a format. Only JSON has a pretty form of its own. -/
def Lexeme.render (lexeme : Lexeme) (pretty : Bool) : Format → String
  | .text => lexeme.summary
  | .json => Json.written pretty lexeme.fields
  | .yaml => Yaml.written lexeme.fields

end DialogueScript
