import SwaggerSdk.Document.Basic
import SwaggerSdk.Files.Access
import SwaggerSdk.Json.Document
import SwaggerSdk.Yaml.Document

/-!
# Loading documents

A file in one of the two data formats becomes a document, unless it belongs to another version of Swagger.
The name of the file tells the format.
-/

namespace SwaggerSdk

inductive TextFormat where
  | json | yaml
  deriving DecidableEq, Repr, Inhabited

inductive LoadError where
  | file (path : String) (cause : FileError)
  | json (cause : Json.ReadError)
  | yaml
  | foreignVersion (version : String)
  deriving DecidableEq, Repr, Inhabited

structure Wording where
  jsonEarly : String
  jsonMalformed : String
  yaml : String

namespace LoadError

def jsonMessage (wording : Wording) : Json.ReadError → String
  | .early => wording.jsonEarly
  | .malformed => wording.jsonMalformed
  | .misfit cause => cause.message

def message (wording : Wording) : LoadError → String
  | file path cause => "failed to read " ++ path ++ ": " ++ cause.message
  | json cause => "invalid swagger json: " ++ jsonMessage wording cause
  | yaml => "invalid swagger yaml: " ++ wording.yaml
  | foreignVersion version =>
    "unsupported OpenAPI version: " ++ version ++ " (expected swagger 2.0)"

def cause? : LoadError → Option String
  | file _ cause => some cause.message
  | json (.misfit cause) => some cause.message
  | json .early | json .malformed | yaml | foreignVersion _ => none

def fullMessage (wording : Wording) (error : LoadError) : String :=
  match error.cause? with
  | some cause => error.message wording ++ ": " ++ cause
  | none => error.message wording

end LoadError

def TextFormat.ofPath (path : String) : TextFormat :=
  match Path.fileExtension? path with
  | some "yaml" | some "yml" => yaml
  | _ => json

namespace Document

def checkVersion (document : Document) : Except LoadError Document :=
  match document.foreignVersion? with
  | some version => .error (.foreignVersion version)
  | none => .ok document

def ofText (format : TextFormat) (text : String) : Except LoadError Document :=
  match format with
  | .json => ((Json.readDocument text).mapError .json).bind checkVersion
  | .yaml =>
    match Yaml.readDocument text with
    | some document => checkVersion document
    | none => .error .yaml

def load {m : Type → Type} [Monad m] (files : FileAccess m) (path : String) :
    m (Except LoadError Document) := do
  match ← files.readText path with
  | .ok text => return ofText (.ofPath path) text
  | .error cause => return .error (.file path cause)

end Document

end SwaggerSdk
