import SwaggerSdk.Model.Basic
import SwaggerSdk.Sdk.Piece

/-!
# The functions of an SDK

A function for each endpoint, under a comment with the summary, the description and the route. The types
of its arguments are literal types over the names of the parameters.
-/

namespace SwaggerSdk.Sdk

def sectionLines (text : String) : List String :=
  if text.isEmpty then []
  else
    (Text.lines text.toList).map (fun line => String.ofList (Text.stripEnd Text.isBlank line)) ++ [""]

def docLines (endpoint : Endpoint) : List String :=
  sectionLines endpoint.summary ++ sectionLines endpoint.description ++
    ["`" ++ endpoint.route.key ++ "`"]

/-- A text that ends no comment: a slash behind a star is escaped. -/
def escapeComment : List Char → List Char
  | [] => []
  | '*' :: '/' :: s => '*' :: '\\' :: '/' :: escapeComment s
  | c :: s => c :: escapeComment s

def docComment (endpoint : Endpoint) : Lines :=
  comment ((docLines endpoint).map fun line => String.ofList (escapeComment line.toList))

def distinctParams : List Param → List Param
  | [] => []
  | [param] => [param]
  | first :: second :: params =>
    if first.name = second.name then
      first :: (distinctParams (second :: params)).tail
    else first :: distinctParams (second :: params)

def literalType (field : Param → String) (params : List Param) : String :=
  inline "; " ((distinctParams params).map field)

def pathType (params : List Param) : String :=
  if params.isEmpty then "Record<string, never>"
  else literalType (fun param => literal param.name ++ ": string | number") params

def queryType (params : List Param) : String :=
  if params.isEmpty then "Record<string, unknown>"
  else literalType
    (fun param => literal param.name ++ (if param.required then "" else "?") ++ ": unknown") params

def bodyType (endpoint : Endpoint) : String := if endpoint.hasBody then "unknown" else "undefined"

def functionHead (language : Language) (endpoint : Endpoint) : Lines :=
  match language with
  | .typescript =>
    ["export async function " ++ endpoint.name ++ "("] ++
    Lines.indent [
      "path?: " ++ pathType endpoint.pathParams ++ ",",
      "query?: " ++ queryType endpoint.queryParams ++ ",",
      "body?: " ++ bodyType endpoint ++ ",",
      "config: __requests.RequestConfig = \x7b\x7d,"] ++
    ["): Promise<__requests.SdkResponse> \x7b"]
  | .javascript =>
    ["export async function " ++ endpoint.name ++
      "(path = undefined, query = undefined, body = undefined, config = \x7b\x7d) \x7b"]

def functionBody (endpoint : Endpoint) : Lines := [
  "const route = __routes." ++ endpoint.name ++ ";",
  "return __requests.request(route.method, route.uri, path, query, body, config);"]

def function (language : Language) (endpoint : Endpoint) : Lines :=
  [""] ++ docComment endpoint ++ functionHead language endpoint ++
    Lines.indent (functionBody endpoint) ++ ["\x7d"]

def functionImports (language : Language) : Lines := [
  "import * as __requests from " ++ moduleName language "requests" ++ ";",
  "import \x7b routes as __routes \x7d from " ++ moduleName language "routes" ++ ";"]

def functions (language : Language) (config : Config) (model : Model) : Lines :=
  opening config ++ functionImports language ++ model.endpoints.flatMap (function language)

end SwaggerSdk.Sdk
