import SwaggerSdk.Config
import SwaggerSdk.Json.Writer
import SwaggerSdk.Model.Basic
import SwaggerSdk.Sdk.PackageName

/-!
# The manifest

The package's name, description and dependencies, as JSON.
-/

namespace SwaggerSdk.Sdk

def description (config : Config) (model : Model) : String :=
  Text.oneLine config.sdkName ++ " client for " ++ Text.oneLine model.title

def languageMembers : Language → List (String × Datum) × List (String × Datum)
  | .typescript =>
    ([("main", .text "index.ts"), ("types", .text "index.ts")],
      [("devDependencies", .record [("typescript", .text "^5.4.0")])])
  | .javascript => ([("main", .text "index.js")], [])

def manifest (language : Language) (config : Config) (model : Model) : Datum :=
  let (entryPoints, development) := languageMembers language
  .record <|
    [("name", .text (packageName config.sdkName)),
      ("version", .text "0.0.0"),
      ("description", .text (description config model)),
      ("private", .flag true),
      ("type", .text "module")] ++
    entryPoints ++
    [("dependencies", .record [("axios", .text "^1.7.0")])] ++
    development

def renderManifest (language : Language) (config : Config) (model : Model) : String :=
  Json.writeIndented (manifest language config model) ++ "\n"

end SwaggerSdk.Sdk
