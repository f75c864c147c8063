import SwaggerSdk.Document.Load
import SwaggerSdk.Model.Build
import SwaggerSdk.Naming.Identifier
import SwaggerSdk.Sdk.Functions
import SwaggerSdk.Sdk.Index
import SwaggerSdk.Sdk.Manifest
import SwaggerSdk.Sdk.Requests
import SwaggerSdk.Sdk.Routes

/-!
# Generating an SDK

From a configuration to five files. All checks come first, then the document is loaded and everything is
rendered; a file is written only when nothing but writing can fail any more.
-/

namespace SwaggerSdk

inductive GenerateError where
  | unsupportedLanguage (name : String)
  /-- The value of an option does not name anything in the generated code. -/
  | unusableName (option value : String)
  | missingInput
  | load (cause : LoadError)
  | emptyModel
  | write (path : String) (cause : FileError)
  deriving DecidableEq, Repr, Inhabited

def GenerateError.message (wording : Wording) : GenerateError → String
  | unsupportedLanguage name => "unsupported --lang: " ++ name ++ " (expected ts or js)"
  | unusableName option value =>
    "invalid " ++ option ++ ": `" ++ value ++ "` is not usable as a JavaScript identifier"
  | missingInput => "missing --input"
  | load cause => cause.message wording
  | emptyModel => "no operations found in swagger document"
  | write path cause => "failed to write " ++ path ++ ": " ++ cause.message

namespace Config

/-- The names that the generated code declares itself. -/
def runtimeNames : List String := [
  "Endpoints", "RequestConfig", "SdkResponse", "TokenProvider", "axios", "body", "buildUrl", "config",
  "error", "headers", "key", "method", "path", "provider", "query", "request", "resolved", "response",
  "routes", "setBaseUrl", "setTokenProvider", "token", "tokenProvider", "uri", "url", "value"]

def isUsableName (name : String) : Bool :=
  Naming.isIdentifier name && !Naming.isReserved name && !runtimeNames.contains name

def language (config : Config) : Except GenerateError Language :=
  match Language.ofName? config.lang with
  | some language => .ok language
  | none => .error (.unsupportedLanguage config.lang)

def checkName (option value : String) : Except GenerateError Unit :=
  if isUsableName value then .ok () else .error (.unusableName option value)

def check (config : Config) : Except GenerateError (Language × String) := do
  let language ← config.language
  checkName "--baseUrlVar" config.baseUrlVar
  checkName "--tokenFn" config.tokenFn
  if config.baseUrlVar = config.tokenFn then throw (.unusableName "--tokenFn" config.tokenFn)
  match config.input with
  | some input => return (language, input)
  | none => throw .missingInput

end Config

namespace Sdk

/-- The text of a piece. It depends on the language, the configuration and the model, and on nothing else. -/
def render (language : Language) (config : Config) (model : Model) : Piece → String
  | .manifest => renderManifest language config model
  | .routes => (routes language config model).toText
  | .requests => (requests language config model).toText
  | .functions => (functions language config model).toText
  | .index => (index language config model).toText

structure File where
  name : String
  content : String
  deriving DecidableEq, Repr, Inhabited

def files (language : Language) (config : Config) (model : Model) : List File :=
  Piece.all.map fun piece => ⟨piece.fileName language, render language config model piece⟩

def generate (config : Config) (model : Model) : Except GenerateError (List File) :=
  config.language.map fun language => files language config model

end Sdk

structure Report where
  outputDir : String
  files : List String
  endpointCount : Nat
  deriving DecidableEq, Repr, Inhabited

namespace Config

variable {m : Type → Type} [Monad m] (access : FileAccess m) (config : Config)

def prepare : m (Except GenerateError (List Sdk.File × Nat)) :=
  match config.check with
  | .error cause => return .error cause
  | .ok (language, input) => do
    match ← Document.load access input with
    | .error cause => return .error (.load cause)
    | .ok document =>
      let model := Model.ofDocument document
      if model.isEmpty then return .error .emptyModel
      else return .ok (Sdk.files language config model, model.endpoints.length)

/-- Writes files up to the first that cannot be written, and lists their paths. -/
def writeFiles (directory : String) : List Sdk.File → m (Except GenerateError (List String))
  | [] => return .ok []
  | file :: files => do
    let path := Path.join directory file.name
    match ← access.writeText path file.content with
    | .error cause => return .error (.write path cause)
    | .ok () => return (← writeFiles directory files).map (path :: ·)

def generate : m (Except GenerateError Report) := do
  match ← config.prepare access with
  | .error cause => return .error cause
  | .ok (files, endpointCount) =>
    match ← access.makeDirectories config.outputDir with
    | .error cause => return .error (.write config.outputDir cause)
    | .ok () =>
      return (← writeFiles access config.outputDir files).map (⟨config.outputDir, ·, endpointCount⟩)

end Config

end SwaggerSdk
