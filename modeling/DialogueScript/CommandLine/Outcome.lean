import DialogueScript.CommandLine.Request
import DialogueScript.LogFilter
import DialogueScript.Render
import DialogueScript.Settings.Loader

/-! # Outcomes of running the program -/
namespace DialogueScript.CommandLine

/-- How a run of the program ends, and all that it writes. -/
structure Outcome where
  exitCode : Nat
  output : String
  diagnostics : String
  deriving DecidableEq, Repr

inductive Failure
  | unknownFormat (name : String)
  | badSettings (cause : Settings.Error)
  | rejected (column : Nat) (rejection : Rejection)
  deriving DecidableEq, Repr

/-- An absent text is not the fault of who wrote the line, so no column is shown for it. -/
def Failure.message : Failure → String
  | unknownFormat name => "Error loading configuration: " ++ Format.unknownMessage name
  | badSettings cause => "Error loading configuration: " ++ cause.message
  | rejected column rejection =>
    if rejection.isPrecondition then "Internal error: " ++ rejection.message
    else "error at column " ++ Nat.repr column ++ ": " ++ rejection.message

namespace Request

/-- The settings to print with. A format has to be one before any file is read. -/
def settings (world : Settings.World) (request : Request) : Except Failure Settings := do
  let format ← request.format.mapM fun name =>
    match Format.ofName? name with
    | some format => .ok format
    | none => .error (.unknownFormat name)
  let loader : Settings.Loader := ⟨request.config.toList, format⟩
  (loader.build world).mapError .badSettings

/-- The rendered lexeme. Settings that cannot be loaded are noticed first. -/
def answer (world : Settings.World) (request : Request) : Except Failure String := do
  let settings ← request.settings world
  let lexeme ← (Lexeme.ofDraft request.draft).mapError (.rejected request.draft.fromColumn)
  return lexeme.render settings.pretty settings.format

/-- What answering a request logs. Nothing is built before the settings are loaded. -/
def events (world : Settings.World) (request : Request) : List Event :=
  if (request.settings world).isOk then request.draft.events else []

end Request

/-- A text as it is printed, with one line end after it. -/
def printed (text : String) : String :=
  String.ofList (Text.dropFinalBlank text.toList) ++ "\n"

/-- Without a filter nothing is logged. -/
def Request.outcome (world : Settings.World) (filter : Option LogFilter) (request : Request) :
    Outcome :=
  let lines := filter.elim "" fun filter => filter.lines (request.events world)
  match request.answer world with
  | .ok text => ⟨0, printed text, lines⟩
  | .error failure => ⟨1, "", lines ++ failure.message ++ "\n"⟩

def usage : String := "\n".intercalate [
  "Usage:",
  "  skit identifier <verbatim> [--column <n>]",
  "  skit run <verbatim> <plain-text> [--column <n>] [--bold] [--italic] [--code]",
  "",
  "Options:",
  "  -f, --format <name>  text, json or yaml",
  "  -c, --config <path>  a TOML file with settings",
  "  -n, --column <n>     the column the text starts in, 1 by default",
  "  -h, --help",
  "  -V, --version",
  ""]

def version : String := "skit 0.1.0\n"

def Stop.outcome : Stop → Outcome
  | usage => ⟨2, "", CommandLine.usage⟩
  | help => ⟨0, CommandLine.usage, ""⟩
  | version => ⟨0, CommandLine.version, ""⟩

/-- Runs the program on arguments, with the text of the log filter. What is wrong with the filter is
said first. -/
def run (world : Settings.World) (log : Option String) (arguments : List String) : Outcome :=
  let outcome := match Request.ofArguments arguments with
    | .ok request => request.outcome world (log.map LogFilter.ofText)
    | .error stop => stop.outcome
  { outcome with diagnostics := log.elim "" LogFilter.complaints ++ outcome.diagnostics }

/-- The paths of the files that running the program in a directory may read. -/
def paths (directory : String) (arguments : List String) : List String :=
  match Request.ofArguments arguments with
  | .ok request =>
    request.config.toList.flatMap fun path =>
      let path := Settings.Files.pathFrom directory path
      path :: (Settings.Files.withExtension? path).toList
  | .error _ => []

end DialogueScript.CommandLine
