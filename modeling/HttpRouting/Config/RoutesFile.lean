/-
Routes files.

The format of a file is chosen by the extension of its name alone.
-/

import HttpRouting.Config.JsonRoutes
import HttpRouting.Config.TomlRoutes
import HttpRouting.Config.YamlRoutes

namespace HttpRouting

abbrev Files :=
  String → Option ByteArray

inductive FileFormat where
  | yaml
  | toml
  | json
  deriving DecidableEq, Repr, Inhabited

/-- The last part of a path that names a file.  A dot alone is skipped, and
two dots name no file. -/
def fileName? (path : String) : Option (List Char) :=
  let parts :=
    (path.toList.splitOn '/').filter (fun part => part != [] && part != ['.'])
  match parts.getLast? with
  | some name => if name = ['.', '.'] then none else some name
  | none => none

/-- The text behind the last dot of a file name, unless nothing stands before
that dot. -/
def fileExtension? (path : String) : Option String := do
  let name ← fileName? path
  let extension := (name.reverse.takeWhile (fun c => c != '.')).reverse
  let stem := name.take (name.length - extension.length - 1)
  if stem = [] then none else pure (String.ofList extension)

namespace FileFormat

def ofPath (path : String) : FileFormat :=
  match fileExtension? path with
  | none => .json
  | some extension =>
      let lower := extension.map Char.toLower
      if lower = "yaml" || lower = "yml" then .yaml
      else if lower = "toml" then .toml
      else .json

def name : FileFormat → String
  | .yaml => "YAML"
  | .toml => "TOML"
  | .json => "JSON"

def decode? (format : FileFormat) (content : String) : Option RoutesConfig :=
  match format with
  | .yaml => (Yaml.parse? content).bind RoutesConfig.ofYaml?
  | .toml => (Toml.parse? content).bind RoutesConfig.ofToml?
  | .json => (Json.parse? content).bind RoutesConfig.ofJson?

end FileFormat

inductive ConfigError where
  /-- There is no such file, or it holds no text. -/
  | unreadable (path : String)
  | malformed (format : FileFormat) (path : String)
  deriving DecidableEq, Repr, Inhabited

def ConfigError.message : ConfigError → String
  | .unreadable path => "Failed to read routes config " ++ path
  | .malformed format path => "Invalid " ++ format.name ++ " in " ++ path

def loadRoutes (files : Files) (path : String) :
    Except ConfigError RoutesConfig :=
  match (files path).bind String.fromUTF8? with
  | none => .error (.unreadable path)
  | some content =>
      let format := FileFormat.ofPath path
      match format.decode? content with
      | none => .error (.malformed format path)
      | some config => .ok config

end HttpRouting
