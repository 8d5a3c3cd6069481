/-
How a run of the program ends.

The exit code is 0 when something was found or done, 1 when nothing was found,
and 2 after an error.
-/

import HttpRouting.Command.Execution
import HttpRouting.Log.Settings

namespace HttpRouting

/-- What goes to the error stream besides log lines. -/
inductive Report where
  | nothing
  /-- The overview of the commands, since nothing was asked for. -/
  | overview
  | usage (error : UsageError)
  | failure (message : String)
  deriving DecidableEq, Repr, Inhabited

structure Completion where
  exitCode : Nat
  output : String
  report : Report
  deriving DecidableEq, Repr, Inhabited

def programName : String :=
  "httprule"

def programRelease : String :=
  "0.1.0-alpha.1"

def versionLine : String :=
  programName ++ " " ++ programRelease ++ "\n"

def overview : String :=
  unlines
    ["HTTP path template compiler and matcher",
      "",
      "Usage: " ++ programName ++ " [OPTIONS] <COMMAND>",
      "",
      "Commands:",
      "  compile  --pattern <PATTERN> [--json]",
      "  match    --pattern <PATTERN> --path <PATH>",
      "  routes   --config <CONFIG>",
      "  resolve  --config <CONFIG> [--method <METHOD>] --path <PATH>",
      "",
      "Options:",
      "  --log-level <LOG_LEVEL>",
      "  -h, --help",
      "  -V, --version"]

namespace Completion

def ofUsageError : UsageError → Completion
  | .helpAsked =>
      { exitCode := 0
        output := overview
        report := .nothing }
  | .versionAsked =>
      { exitCode := 0
        output := versionLine
        report := .nothing }
  | .nothingGiven =>
      { exitCode := 2
        output := ""
        report := .overview }
  | error =>
      { exitCode := 2
        output := ""
        report := .usage error }

def ofOutcome : Except CommandError Outcome → Completion
  | .ok outcome =>
      { exitCode := if outcome.found then 0 else 1
        output := outcome.output
        report := .nothing }
  | .error error =>
      { exitCode := 2
        output := ""
        report := .failure ("error: " ++ error.message) }

def run (environment : Log.Environment) (files : Files)
    (arguments : List String) : Completion :=
  match Arguments.parse (environment "HTTPRULE_LOG_LEVEL") arguments with
  | .error error => ofUsageError error
  | .ok invocation => ofOutcome (invocation.command.execute files)

end Completion

end HttpRouting
