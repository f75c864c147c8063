import SwaggerSdk.Model.Basic
import SwaggerSdk.Sdk.Piece

/-!
# What the package exports

All functions, and those names of the other files that no function has.
-/

namespace SwaggerSdk.Sdk

def freeNames (model : Model) (names : List String) : List String :=
  names.filter (!model.hasEndpoint ·)

def routeExports : List String := ["routes", "Endpoints"]

def requestExports (config : Config) : List String :=
  [config.baseUrlVar, config.tokenFn, "setBaseUrl", "setTokenProvider"]

def exportNames (language : Language) (file : String) (names : List String) : Lines :=
  if names.isEmpty then []
  else ["export " ++ nameList names ++ " from " ++ moduleName language file ++ ";"]

def exportTypes (language : Language) (file : String) (names : List String) : Lines :=
  match language with
  | .typescript => ["export type " ++ nameList names ++ " from " ++ moduleName language file ++ ";"]
  | .javascript => []

def index (language : Language) (config : Config) (model : Model) : Lines :=
  opening config ++
    ["export * from " ++ moduleName language "sdk" ++ ";"] ++
    exportNames language "routes" (freeNames model routeExports) ++
    exportTypes language "routes" ["OperationName", "Route"] ++
    exportNames language "requests" (freeNames model (requestExports config)) ++
    exportTypes language "requests" ["RequestConfig", "SdkResponse", "TokenProvider"]

end SwaggerSdk.Sdk
