/-
Routes from YAML documents.

A configuration and an entry are mappings whose keys are scalars.  Known keys
come at most once; all others are skipped.  A node that is left out stands for
a mapping or a sequence without entries, and any scalar for its own text.
-/

import HttpRouting.Config.Routes
import HttpRouting.Yaml.Node

namespace HttpRouting

namespace Yaml

def Node.text? : Node → Option String
  | .scalar text _ => some text
  | _ => none

def Node.fields? : Node → Option (List (String × Node))
  | .scalar text plain => if text = "" && plain then some [] else none
  | .mapping entries =>
      entries.mapM (fun entry => entry.1.text?.map (fun key => (key, entry.2)))
  | _ => none

def Node.elements? : Node → Option (List Node)
  | .scalar text plain => if text = "" && plain then some [] else none
  | .sequence elements => some elements
  | _ => none

def uniqueField? (key : String) (fields : List (String × Node)) :
    Option (Option Node) :=
  match fields.filter (fun field => field.1 == key) with
  | [] => some none
  | [field] => some (some field.2)
  | _ => none

def requiredText? (key : String) (fields : List (String × Node)) :
    Option String := do
  let node ← ← uniqueField? key fields
  node.text?

end Yaml

def RouteEntry.ofYaml? (node : Yaml.Node) : Option RouteEntry := do
  let fields ← node.fields?
  let name ← Yaml.requiredText? "name" fields
  let pattern ← Yaml.requiredText? "pattern" fields
  match ← Yaml.uniqueField? "method" fields with
  | none =>
      pure
        { name := name
          pattern := pattern }
  | some method =>
      pure
        { name := name
          method := ← method.text?
          pattern := pattern }

def RoutesConfig.ofYaml? (node : Yaml.Node) : Option RoutesConfig := do
  let fields ← node.fields?
  match ← Yaml.uniqueField? "routes" fields with
  | none => pure {}
  | some routes =>
      pure { routes := ← (← routes.elements?).mapM RouteEntry.ofYaml? }

end HttpRouting
