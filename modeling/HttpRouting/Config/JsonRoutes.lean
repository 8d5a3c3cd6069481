/-
Routes from JSON documents.

A configuration and an entry are objects, or arrays of their parts in order.
Known keys come at most once; all others are skipped.
-/

import HttpRouting.Config.Routes
import HttpRouting.Json.Reader

namespace HttpRouting

def RouteEntry.ofJson? (value : Json) : Option RouteEntry :=
  match value with
  | .array [name, method, pattern] => do
      pure
        { name := ← name.text?
          method := ← method.text?
          pattern := ← pattern.text? }
  | .object members =>
      if Json.keysSpelled members then do
        let name ← Json.requiredText? "name" members
        let pattern ← Json.requiredText? "pattern" members
        match ← Json.uniqueMember? "method" members with
        | none =>
            pure
              { name := name
                pattern := pattern }
        | some method =>
            pure
              { name := name
                method := ← method.text?
                pattern := pattern }
      else none
  | _ => none

def RoutesConfig.ofJson? (value : Json) : Option RoutesConfig :=
  let entries (routes : Json) : Option RoutesConfig := do
    let elements ← routes.elements?
    pure { routes := ← elements.mapM RouteEntry.ofJson? }
  match value with
  | .array [] => some {}
  | .array [routes] => entries routes
  | .object members =>
      if Json.keysSpelled members then do
        match ← Json.uniqueMember? "routes" members with
        | none => pure {}
        | some routes => entries routes
      else none
  | _ => none

end HttpRouting
