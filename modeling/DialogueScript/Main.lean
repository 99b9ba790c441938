import DialogueScript.CommandLine.Outcome

/-! # The program `skit` -/
namespace DialogueScript

/-- What an attempt to read a file shows of it. A directory is no file. -/
def fileOfAttempt? : Except IO.Error String → Option Settings.File
  | .ok text => some (.text text)
  | .error (.noFileOrDirectory ..) => none
  | .error (.inappropriateType ..) => none
  | .error (.invalidArgument ..) => none
  | .error cause => some (.unreadable (toString cause))

def readFiles : List String → IO Settings.Files
  | [] => return fun _ => none
  | path :: paths => do
    let files ← readFiles paths
    let file := fileOfAttempt? (← (IO.FS.readFile path).toBaseIO)
    return fun asked => if asked = path then file else files asked

end DialogueScript

open DialogueScript

def main (arguments : List String) : IO UInt32 := do
  let directory := (← IO.currentDir).toString
  let files ← readFiles (CommandLine.paths directory arguments)
  let world : Settings.World := ⟨files, directory, .written, fun _ => "TOML parse error"⟩
  let outcome := CommandLine.run world (← IO.getEnv "SKIT_LOG") arguments
  (← IO.getStderr).putStr outcome.diagnostics
  (← IO.getStdout).putStr outcome.output
  return UInt32.ofNat outcome.exitCode
