/-
Command-line arguments.

Each command is a level of its own with its options.  Arguments are read from
left to right; an option whose value has not been stored yet waits for the next
option or for the end, so that mistakes come to light in a fixed order.
-/

namespace HttpRouting

inductive Command where
  | compile (pattern : String) (asJson : Bool)
  | tryPath (pattern path : String)
  | listRoutes (config : String)
  | resolve (config method path : String)
  deriving DecidableEq, Repr, Inhabited

structure Invocation where
  logLevel : String
  command : Command
  deriving DecidableEq, Repr, Inhabited

inductive UsageError where
  | helpAsked
  | versionAsked
  | nothingGiven
  | missingCommand
  | unknownCommand
  | unknownArgument
  | missingOption
  /-- An option without its value, or with one that it does not take. -/
  | invalidValue
  | surplusValue
  | repeatedOption
  deriving DecidableEq, Repr, Inhabited

namespace Arguments

/-! ### Options -/

inductive Action where
  | takeValue
  | raiseFlag
  | showHelp
  | showVersion
  deriving DecidableEq, Repr, Inhabited

structure Choice where
  name : String
  letter : Option Char := none
  action : Action := .takeValue
  required : Bool := false
  /-- The value may be the empty text. -/
  takesEmpty : Bool := true
  deriving DecidableEq, Repr, Inhabited

structure Level where
  choices : List Choice
  commands : List String := []
  deriving DecidableEq, Repr, Inhabited

def helpChoice : Choice :=
  { name := "help"
    letter := some 'h'
    action := .showHelp }

def versionChoice : Choice :=
  { name := "version"
    letter := some 'V'
    action := .showVersion }

def logLevelChoice : Choice :=
  { name := "log-level" }

def patternChoice : Choice :=
  { name := "pattern"
    letter := some 'p'
    required := true }

def pathChoice : Choice :=
  { name := "path"
    required := true }

def configChoice : Choice :=
  { name := "config"
    letter := some 'c'
    required := true
    takesEmpty := false }

def methodChoice : Choice :=
  { name := "method"
    letter := some 'm' }

def jsonChoice : Choice :=
  { name := "json"
    action := .raiseFlag }

def commandNames : List String :=
  ["compile", "match", "routes", "resolve"]

def topLevel : Level :=
  { choices := [logLevelChoice, helpChoice, versionChoice]
    commands := commandNames ++ ["help"] }

def commandLevel (name : String) : Level :=
  let own :=
    if name = "compile" then [patternChoice, jsonChoice]
    else if name = "match" then [patternChoice, pathChoice]
    else if name = "routes" then [configChoice]
    else [configChoice, methodChoice, pathChoice]
  { choices := own ++ [logLevelChoice, helpChoice] }

/-! ### Values -/

/-- An option that was named last; without a value it waits for one. -/
structure Pending where
  choice : Choice
  value : Option String
  deriving DecidableEq, Repr, Inhabited

structure Collected where
  values : List (String × String) := []
  pending : Option Pending := none
  deriving DecidableEq, Repr, Inhabited

namespace Collected

def value? (collected : Collected) (choice : Choice) : Option String :=
  collected.values.lookup choice.name

def awaits (collected : Collected) : Bool :=
  match collected.pending with
  | some pending => pending.value.isNone
  | none => false

def store (choice : Choice) (value : String) (collected : Collected) :
    Except UsageError Collected :=
  if (collected.value? choice).isSome then .error .repeatedOption
  else if value = "" && !choice.takesEmpty then .error .invalidValue
  else
    .ok
      { collected with
        values := collected.values ++ [(choice.name, value)] }

def settle (collected : Collected) : Except UsageError Collected :=
  match collected.pending with
  | none => .ok collected
  | some pending =>
      match pending.value with
      | none => .error .invalidValue
      | some value =>
          store pending.choice value { collected with pending := none }

def act (choice : Choice) (value : String) (collected : Collected) :
    Except UsageError Collected := do
  let collected ← collected.settle
  match choice.action with
  | .takeValue => collected.store choice value
  | .raiseFlag => collected.store choice "true"
  | .showHelp => .error .helpAsked
  | .showVersion => .error .versionAsked

/-- An option that takes a value, which may be attached to it. -/
def name (choice : Choice) (attached : Option String)
    (collected : Collected) : Except UsageError Collected :=
  match attached with
  | some value => collected.act choice value
  | none => do
      let collected ← collected.settle
      pure
        { collected with
          pending :=
            some
              { choice := choice
                value := none } }

def supply (value : String) (collected : Collected) : Collected :=
  { collected with
    pending :=
      collected.pending.map
        (fun pending => { pending with value := some value }) }

end Collected

/-! ### Arguments -/

/-- A text behind two hyphens, and the value behind its first equals sign. -/
def readLong (level : Level) (text : List Char) (collected : Collected) :
    Except UsageError Collected :=
  let name := String.ofList (text.takeWhile (fun c => c != '='))
  let attached :=
    match text.dropWhile (fun c => c != '=') with
    | [] => none
    | _ :: value => some (String.ofList value)
  match level.choices.find? (fun choice => choice.name == name) with
  | none => .error .unknownArgument
  | some choice =>
      if choice.action = .takeValue then collected.name choice attached
      else if attached.isSome then .error .surplusValue
      else collected.act choice ""

/-- Letters behind one hyphen.  What follows the letter of an option with a
value is that value. -/
def readLetters (level : Level) (collected : Collected) :
    List Char → Except UsageError Collected
  | [] => .ok collected
  | letter :: rest =>
      match level.choices.find? (fun choice => choice.letter == some letter) with
      | none => .error .unknownArgument
      | some choice =>
          if choice.action = .takeValue then
            let attached :=
              match rest with
              | [] => none
              | '=' :: value => some (String.ofList value)
              | value => some (String.ofList value)
            collected.name choice attached
          else
            match collected.act choice "" with
            | .error error => .error error
            | .ok collected => readLetters level collected rest

def strayText (level : Level) (afterHyphens : Bool) (text : String) :
    UsageError :=
  if level.commands = [] then .unknownArgument
  else if afterHyphens && level.commands.contains text then .unknownArgument
  else .unknownCommand

/-- Reads up to the name of a command, or to the end. -/
def readLevel (level : Level) (afterHyphens : Bool) (collected : Collected) :
    List String → Except UsageError (Collected × Option (String × List String))
  | [] => .ok (collected, none)
  | argument :: rest =>
      if afterHyphens then .error (strayText level true argument)
      else if !collected.awaits && level.commands.contains argument then
        .ok (collected, some (argument, rest))
      else
        match argument.toList with
        | ['-', '-'] => readLevel level true collected rest
        | '-' :: '-' :: text =>
            match readLong level text collected with
            | .error error => .error error
            | .ok collected => readLevel level false collected rest
        | '-' :: letter :: letters =>
            match readLetters level collected (letter :: letters) with
            | .error error => .error error
            | .ok collected => readLevel level false collected rest
        | _ =>
            if collected.awaits then
              readLevel level false (collected.supply argument) rest
            else .error (strayText level false argument)

/-! ### Commands -/

def required (collected : Collected) (choice : Choice) :
    Except UsageError String :=
  match collected.value? choice with
  | some value => .ok value
  | none => .error .missingOption

def commandOf (name : String) (collected : Collected) :
    Except UsageError Command :=
  if name = "compile" then do
    let pattern ← required collected patternChoice
    pure (.compile pattern (collected.value? jsonChoice).isSome)
  else if name = "match" then do
    let pattern ← required collected patternChoice
    let path ← required collected pathChoice
    pure (.tryPath pattern path)
  else if name = "routes" then do
    let config ← required collected configChoice
    pure (.listRoutes config)
  else do
    let config ← required collected configChoice
    let path ← required collected pathChoice
    pure
      (.resolve config ((collected.value? methodChoice).getD "GET") path)

def readCommand (name : String) (arguments : List String) :
    Except UsageError (Collected × Command) := do
  let (collected, _) ← readLevel (commandLevel name) false {} arguments
  let collected ← collected.settle
  let command ← commandOf name collected
  pure (collected, command)

def readHelp : List String → UsageError
  | [] => .helpAsked
  | [name] =>
      if topLevel.commands.contains name then .helpAsked else .unknownCommand
  | _ => .unknownCommand

/-- The level of the command, else that of the program, else that of the
environment. -/
def chooseLogLevel (inner outer : Collected) (environment : Option String) :
    String :=
  (((inner.value? logLevelChoice).or
    (outer.value? logLevelChoice)).or environment).getD "warn"

/-- The invocation that arguments spell; the log level of the environment
stands in for the option. -/
def parse (environmentLevel : Option String) (arguments : List String) :
    Except UsageError Invocation := do
  let (outer, found) ← readLevel topLevel false {} arguments
  match found with
  | none =>
      let outer ← outer.settle
      if outer.values.isEmpty && environmentLevel.isNone then
        .error .nothingGiven
      else .error .missingCommand
  | some (name, rest) =>
      if name = "help" then .error (readHelp rest)
      else
        let (inner, command) ← readCommand name rest
        let outer ← outer.settle
        pure
          { logLevel := chooseLogLevel inner outer environmentLevel
            command := command }

end Arguments

end HttpRouting
