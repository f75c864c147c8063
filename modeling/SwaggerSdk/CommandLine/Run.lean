import SwaggerSdk.CommandLine.Arguments
import SwaggerSdk.Generate
import SwaggerSdk.Json.Writer
import SwaggerSdk.Yaml.Writer

/-!
# Runs

What a run does to the files, and what it says. A run that is misused touches no file.
-/

namespace SwaggerSdk

structure Surroundings where
  workingDirectory : String
  wording : Wording
  help : Option Command → String
  usage : String
  completions : Shell → String

structure Outcome where
  exitCode : Nat
  output : String
  errors : String
  deriving DecidableEq, Repr, Inhabited

namespace CommandLine

def lines (texts : List String) : String := String.join (texts.map (· ++ "\n"))

def failed (message : String) : Outcome := ⟨1, "", lines [message]⟩

def versionText : String := lines ["sdkgen 0.1.0"]

variable {m : Type → Type} [Monad m] (access : FileAccess m) (around : Surroundings)

def generated (report : Report) : Outcome :=
  let directory := (Path.absolute? around.workingDirectory report.outputDir).getD report.outputDir
  ⟨0, lines ["SDK generated at: " ++ directory], lines (report.files.map ("  wrote " ++ ·))⟩

def generate (flags : Flags) : m Outcome := do
  match ← flags.resolve access with
  | .error cause => return failed ("generate failed: " ++ cause.fullMessage around.wording.yaml)
  | .ok config =>
    if config.input.isNone then
      return ⟨2, "", lines [GenerateError.missingInput.message around.wording]⟩
    else
      match ← config.generate access with
      | .error cause => return failed ("generate failed: " ++ cause.message around.wording)
      | .ok report => return generated around report

def validated (document : Document) : Outcome :=
  let model := Model.ofDocument document
  let summary := [
    "Valid swagger " ++ document.swagger.getD "2.0" ++ " document: " ++ model.title,
    "  Version: " ++ document.info.version.getD "unknown",
    "  Paths: " ++ toString document.paths.entries.length,
    "  Operations: " ++ toString model.endpoints.length]
  if model.isEmpty then
    ⟨1, "", lines (summary ++ ["error: " ++ GenerateError.emptyModel.message around.wording])⟩
  else ⟨0, "", lines (summary ++ ["Validation successful."])⟩

def validate (input : String) : m Outcome := do
  match ← Document.load access input with
  | .error cause => return failed ("error: " ++ cause.fullMessage around.wording)
  | .ok document => return validated around document

def shown (format : TextFormat) (model : Model) : String :=
  match format with
  | .yaml => Yaml.write model.toDatum
  | .json => lines [Json.writeIndented model.toDatum]

def inspect (input : String) (format : TextFormat) : m Outcome := do
  match ← Document.load access input with
  | .error cause => return failed ("error: " ++ cause.fullMessage around.wording)
  | .ok document => return ⟨0, shown format (Model.ofDocument document), ""⟩

def writeTemplate : m Outcome := do
  match ← access.writeText Config.fileName Config.fileTemplate with
  | .error cause => return failed ("error: failed to write " ++ Config.fileName ++ ": " ++ cause.message)
  | .ok () => return ⟨0, "", lines ["Created " ++ Config.fileName]⟩

def init (isForced : Bool) : m Outcome := do
  if (← access.isPresent Config.fileName) && !isForced then
    return failed ("error: " ++ Config.fileName ++ " already exists. Use --force to overwrite.")
  else writeTemplate access

def answer : Request → m Outcome
  | .generate flags => generate access around flags
  | .validate input => validate access around input
  | .inspect input format => inspect access around input format
  | .init isForced => init access isForced
  | .completions shell => return ⟨0, around.completions shell, ""⟩

def stopped : Stop → Outcome
  | .help command => ⟨0, around.help command, ""⟩
  | .version => ⟨0, versionText, ""⟩
  | .misuse => ⟨2, "", around.usage⟩

def run (arguments : List String) : m Outcome :=
  match read arguments with
  | .ok request => answer access around request
  | .error stop => return stopped around stop

end CommandLine

end SwaggerSdk
