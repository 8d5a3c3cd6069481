/-
What the commands do.

A command prints its result; `found` is false when a path matched nothing.  An
error is told with all its causes, the outermost first.
-/

import HttpRouting.Command.Arguments
import HttpRouting.Config.RoutesFile
import HttpRouting.Json.Writer
import HttpRouting.Table.Listing

namespace HttpRouting

structure Outcome where
  found : Bool
  output : String
  deriving DecidableEq, Repr, Inhabited

inductive CommandError where
  | template (pattern : String) (source : ParseError)
  | program (pattern : String) (source : ProgramError)
  | unsupportedMethod (method : String)
  | config (source : ConfigError)
  | table (path : String) (source : RouteError)
  deriving DecidableEq, Repr, Inhabited

namespace CommandError

def causes : CommandError → List String
  | .template pattern source =>
      ["Invalid template '" ++ pattern ++ "'", source.message]
  | .program pattern source =>
      ["Compiled program for '" ++ pattern ++ "' is invalid", source.message]
  | .unsupportedMethod method => ["Unsupported HTTP method '" ++ method ++ "'"]
  | .config source => [source.message]
  | .table path source =>
      ["Failed to build route table from " ++ path, source.message] ++
        source.sourceMessage?.toList

def message (error : CommandError) : String :=
  ": ".intercalate error.causes

end CommandError

namespace Command

/-! ### Compiling -/

def compilePattern (pattern : String) : Except CommandError Program :=
  match Template.parse pattern with
  | .error source => .error (.template pattern source)
  | .ok template => .ok template.compile

def checkedProgram (pattern : String) :
    Except CommandError (String × Program) :=
  match Template.parse pattern with
  | .error source => .error (.template pattern source)
  | .ok template =>
      match template.compile.validate with
      | .error source => .error (.program pattern source)
      | .ok _ => .ok (template.render, template.compile)

def programDocument (pattern : String) (program : Program) : Json :=
  Json.record
    [("fields", Json.textArray program.fields),
      ("max_stack", Json.natural program.maxStack),
      ("opcodes",
        .array
          (program.opcodes.map (fun word => Json.integer word.toInt))),
      ("pool", Json.textArray program.pool),
      ("template", Json.text pattern),
      ("verb", Json.text program.verb),
      ("version", Json.integer program.version.toInt)]

def poolLines (position : Nat) : List String → List String
  | [] => []
  | entry :: rest =>
      ("  " ++ alignRight 4 (toString position) ++ " " ++ quoted entry) ::
        poolLines (position + 1) rest

def programReport (pattern : String) (program : Program) : List String :=
  ["template:  " ++ pattern,
    "verb:      " ++ program.verb,
    "fields:    " ++ quotedList program.fields,
    "max stack: " ++ toString program.maxStack,
    "pool:"] ++
    poolLines 0 program.pool ++
    ["code:"] ++
    program.lines.map (fun line => "  " ++ line)

/-! ### Matching -/

def bindingsDocument (bindings : Bindings) : Json :=
  Json.record
    (bindings.sorted.map (fun entry => (entry.1, Json.text entry.2)))

def matchDocument (bindings : Bindings) : Json :=
  Json.record
    [("bindings", bindingsDocument bindings), ("matched", .bool true)]

def resolveDocument (answer : RouteMatch) : Json :=
  Json.record
    [("bindings", bindingsDocument answer.bindings),
      ("matched", .bool true),
      ("method", Json.text answer.route.method.token),
      ("pattern", Json.text answer.route.pattern),
      ("route", Json.text answer.route.name)]

def foundOutcome (document : Json) : Outcome :=
  { found := true
    output := document.compact ++ "\n" }

def nothingFound : Outcome :=
  { found := false
    output := (Json.record [("matched", .bool false)]).compact ++ "\n" }

/-! ### Running -/

def loadTable (files : Files) (config : String) :
    Except CommandError RouteTable :=
  match loadRoutes files config with
  | .error source => .error (.config source)
  | .ok routes =>
      match RouteTable.ofConfig routes with
      | .error source => .error (.table config source)
      | .ok table => .ok table

def runCompile (pattern : String) (asJson : Bool) :
    Except CommandError Outcome :=
  match checkedProgram pattern with
  | .error error => .error error
  | .ok (canonical, program) =>
      .ok
        { found := true
          output :=
            if asJson then
              (programDocument canonical program).indented ++ "\n"
            else unlines (programReport canonical program) }

def runMatch (pattern path : String) : Except CommandError Outcome :=
  match compilePattern pattern with
  | .error error => .error error
  | .ok program =>
      let request := Request.split path
      match program.match? request.components request.verb with
      | some bindings => .ok (foundOutcome (matchDocument bindings))
      | none => .ok nothingFound

def runRoutes (files : Files) (config : String) :
    Except CommandError Outcome :=
  match loadTable files config with
  | .error error => .error error
  | .ok table =>
      .ok
        { found := true
          output := table.listing }

/-- The method is looked at before the file. -/
def runResolve (files : Files) (config method path : String) :
    Except CommandError Outcome :=
  match Method.ofName? method with
  | none => .error (.unsupportedMethod method)
  | some method =>
      match loadTable files config with
      | .error error => .error error
      | .ok table =>
          match table.resolve? method path with
          | some answer => .ok (foundOutcome (resolveDocument answer))
          | none => .ok nothingFound

def execute (files : Files) : Command → Except CommandError Outcome
  | .compile pattern asJson => runCompile pattern asJson
  | .tryPath pattern path => runMatch pattern path
  | .listRoutes config => runRoutes files config
  | .resolve config method path => runResolve files config method path

def file? : Command → Option String
  | .listRoutes config => some config
  | .resolve config _ _ => some config
  | _ => none

end Command

end HttpRouting
