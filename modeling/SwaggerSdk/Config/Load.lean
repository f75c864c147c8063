import SwaggerSdk.Files.Access
import SwaggerSdk.Yaml.Document

/-!
# Configuration files

A configuration in a file. A file that is looked for need not be there; one that is named has to be, and its
paths are relative to the directory that it lies in.
-/

namespace SwaggerSdk

inductive ConfigError where
  | file (path : String) (cause : FileError)
  | yaml (path : String)
  | missing (path : String)
  deriving DecidableEq, Repr, Inhabited

namespace ConfigError

def message (yamlWording : String) : ConfigError → String
  | file path cause => "failed to read config " ++ path ++ ": " ++ cause.message
  | yaml path => "failed to parse config " ++ path ++ ": " ++ yamlWording
  | missing path => "config file " ++ path ++ " not found"

def fullMessage (yamlWording : String) (error : ConfigError) : String :=
  match error with
  | file _ cause => error.message yamlWording ++ ": " ++ cause.message
  | yaml _ | missing _ => error.message yamlWording

end ConfigError

namespace Config

variable {m : Type → Type} [Monad m] (access : FileAccess m)

def load (path : String) : m (Except ConfigError (Option Config)) := do
  if !(← access.isPresent path) then return .ok none
  match ← access.readText path with
  | .error cause => return .error (.file path cause)
  | .ok text =>
    match Yaml.readConfig text with
    | some config => return .ok (some config)
    | none => return .error (.yaml path)

def rebase (directory : String) (config : Config) : Config :=
  { config with
    input := config.input.map (Path.join directory)
    outputDir := Path.join directory config.outputDir }

def loadNamed (path : String) : m (Except ConfigError Config) := do
  match ← load access path with
  | .error cause => return .error cause
  | .ok none => return .error (.missing path)
  | .ok (some config) => return .ok (config.rebase ((Path.parent? path).getD ""))

end Config

end SwaggerSdk
