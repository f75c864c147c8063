import SwaggerSdk.Model.Basic
import SwaggerSdk.Sdk.Piece

/-!
# The table of routes

A constant with the method and the path of every endpoint, in the order of the model, one line for each.
-/

namespace SwaggerSdk.Sdk

def routeLine (endpoint : Endpoint) : String :=
  endpoint.name ++ ": " ++
    inline ", " ["method: " ++ literal endpoint.route.method.name, "uri: " ++ literal endpoint.route.path] ++
    ","

def routeTable (language : Language) (model : Model) : Lines :=
  let tail := match language with
    | .typescript => " as const;"
    | .javascript => ";"
  blockThen tail "export const routes =" (model.endpoints.map routeLine)

def routeComment : String := "Every operation's HTTP method and path template, keyed by function name."

def routeAccess : Language → Lines
  | .typescript =>
    ["",
      "export type OperationName = keyof typeof routes;",
      "",
      "export type Route = (typeof routes)[OperationName];",
      "",
      "/** " ++ routeComment ++ " */"] ++
    block "export function Endpoints(): typeof routes" ["return routes;"]
  | .javascript =>
    [""] ++
    comment [routeComment, "@returns \x7btypeof routes\x7d"] ++
    block "export function Endpoints()" ["return routes;"]

def routes (language : Language) (config : Config) (model : Model) : Lines :=
  opening config ++ routeTable language model ++ routeAccess language

end SwaggerSdk.Sdk
