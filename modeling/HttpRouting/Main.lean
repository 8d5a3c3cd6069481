/-
The command line: reads the arguments, the environment and the one file that a
command names, and prints how the run ends.
-/

import HttpRouting.Command.Completion

open HttpRouting

def readBytes (path : String) : IO (Option ByteArray) := do
  try
    let bytes ← IO.FS.readBinFile path
    pure (some bytes)
  catch _ =>
    pure none

def readNamedFile (level : Option String) (arguments : List String) :
    IO Files := do
  match Arguments.parse level arguments with
  | .error _ => pure (fun _ => none)
  | .ok invocation =>
      match invocation.command.file? with
      | none => pure (fun _ => none)
      | some path =>
          let content ← readBytes path
          pure (fun name => if name = path then content else none)

def reportText : Report → String
  | .nothing => ""
  | .overview => overview
  | .usage _ => "error: invalid arguments\n\n" ++ overview
  | .failure message => message ++ "\n"

def main (arguments : List String) : IO UInt32 := do
  let level ← IO.getEnv "HTTPRULE_LOG_LEVEL"
  let environment : Log.Environment :=
    fun name => if name = "HTTPRULE_LOG_LEVEL" then level else none
  let files ← readNamedFile level arguments
  let completion := Completion.run environment files arguments
  IO.print completion.output
  IO.eprint (reportText completion.report)
  pure completion.exitCode.toUInt32
