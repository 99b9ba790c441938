import DialogueScript.Lexeme

/-! # Summaries: a lexeme on one line -/
namespace DialogueScript

def Run.style (run : Run) : String :=
  if run.isPlain then "plain"
  else "+".intercalate <|
    (if run.bold then ["bold"] else []) ++ (if run.italic then ["italic"] else []) ++
      (if run.code then ["code"] else [])

def Lexeme.summary : Lexeme → String
  | .identifier value =>
    "identifier " ++ value.columns.text ++ " " ++ Text.quoted value.verbatim ++ " -> " ++ value.key
  | .run value =>
    "run " ++ value.columns.text ++ " [" ++ value.style ++ "] " ++ Text.quoted value.verbatim ++
      " -> " ++ Text.quoted value.plainText

end DialogueScript
