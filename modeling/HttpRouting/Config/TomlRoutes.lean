/-
Routes from TOML documents.

An entry is a table, or an array that begins with its three parts.  Keys with
another name are skipped.
-/

import HttpRouting.Config.Routes
import HttpRouting.Toml.Reader

namespace HttpRouting

namespace Toml

def Value.text? : Value → Option String
  | .text value => some value
  | _ => none

def Value.elements? : Value → Option (List Value)
  | .array elements => some elements
  | .tables elements => some elements
  | _ => none

def requiredText? (key : String) (entries : Entries) : Option String := do
  (← entries.lookup key).text?

end Toml

def RouteEntry.ofToml? (value : Toml.Value) : Option RouteEntry :=
  match value with
  | .array (name :: method :: pattern :: _) => do
      pure
        { name := ← name.text?
          method := ← method.text?
          pattern := ← pattern.text? }
  | .table _ entries => do
      let name ← Toml.requiredText? "name" entries
      let pattern ← Toml.requiredText? "pattern" entries
      match entries.lookup "method" with
      | none =>
          pure
            { name := name
              pattern := pattern }
      | some method =>
          pure
            { name := name
              method := ← method.text?
              pattern := pattern }
  | _ => none

def RoutesConfig.ofToml? (entries : Toml.Entries) : Option RoutesConfig :=
  match entries.lookup "routes" with
  | none => some {}
  | some routes => do
      pure { routes := ← (← routes.elements?).mapM RouteEntry.ofToml? }

end HttpRouting
