/-
Log settings.

Settings come from the environment or from a preset; their filter decides what
is logged.
-/

import HttpRouting.Log.Directive

namespace HttpRouting

namespace Log

abbrev Environment :=
  String → Option String

inductive Format where
  | json
  | pretty
  deriving DecidableEq, Repr, Inhabited

namespace Format

def name : Format → String
  | .json => "json"
  | .pretty => "pretty"

/-- Pretty in any case of its name; all else is JSON. -/
def ofName (name : String) : Format :=
  if name.map Char.toLower = "pretty" then .pretty else .json

end Format

structure Settings where
  logLevel : String := "info"
  format : Format := .json
  targetFilter : Option String := none
  includeLocation : Bool := false
  deriving DecidableEq, Repr, Inhabited

namespace Settings

def standard : Settings :=
  {}

def development : Settings :=
  { logLevel := "debug"
    format := .pretty
    includeLocation := true }

def ofEnvironment (environment : Environment) : Settings :=
  { logLevel := (environment "HTTPRULE_LOG_LEVEL").getD "info"
    format := Format.ofName ((environment "HTTPRULE_LOG_FORMAT").getD "json")
    targetFilter := environment "HTTPRULE_LOG_TARGET_FILTER"
    includeLocation :=
      environment "HTTPRULE_LOG_INCLUDE_LOCATION" == some "true" }

def level (settings : Settings) : Level :=
  match Level.ofName? settings.logLevel with
  | none => .info
  | some .off => .info
  | some level => level

/-- The filter of the general variable if all of it can be read, else that of
the level. -/
def baseFilter (environment : Environment) (settings : Settings) : Filter :=
  let general := (environment "RUST_LOG").bind parseFilter?
  general.getD
    [{ target := none
       level := settings.level }]

def filter (environment : Environment) (settings : Settings) : Filter :=
  let base := settings.baseFilter environment
  match settings.targetFilter with
  | none => base
  | some targets => addDirectives targets base

end Settings

end Log

end HttpRouting
