/-
Why a route is not registered.
-/

import HttpRouting.Program.Validation
import HttpRouting.Template.ParseError

namespace HttpRouting

/-- Each cause names the route. -/
inductive RouteError where
  | parse (name : String) (source : ParseError)
  | program (name : String) (source : ProgramError)
  | duplicateName (name : String)
  | unsupportedMethod (name method : String)
  deriving DecidableEq, Repr, Inhabited

namespace RouteError

def message : RouteError → String
  | .parse name source => "route '" ++ name ++ "': " ++ source.message
  | .program name source =>
      "route '" ++ name ++ "': invalid program: " ++ source.message
  | .duplicateName name => "route '" ++ name ++ "' is already registered"
  | .unsupportedMethod name method =>
      "route '" ++ name ++ "': unsupported HTTP method '" ++ method ++ "'"

def sourceMessage? : RouteError → Option String
  | .parse _ source => some source.message
  | .program _ source => some source.message
  | _ => none

end RouteError

end HttpRouting
