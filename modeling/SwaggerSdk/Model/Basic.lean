import SwaggerSdk.Datum
import SwaggerSdk.Route

/-!
# The model of an SDK

What the generated code depends on: the endpoints with their names and parameters. A model does not show
in which order the document lists anything.
-/

namespace SwaggerSdk

structure Param where
  name : String
  required : Bool
  deriving DecidableEq, Repr, Inhabited

/-- An operation as the SDK offers it: one function. -/
structure Endpoint where
  name : String
  route : Route
  pathParams : List Param
  queryParams : List Param
  hasBody : Bool
  summary : String
  description : String
  deriving DecidableEq, Repr, Inhabited

structure Model where
  title : String
  basePath : String
  endpoints : List Endpoint
  deriving DecidableEq, Repr, Inhabited

def Param.toDatum (param : Param) : Datum :=
  .record [("name", .text param.name), ("required", .flag param.required)]

def Endpoint.toDatum (endpoint : Endpoint) : Datum := .record [
  ("name", .text endpoint.name),
  ("method", .text endpoint.route.method.name),
  ("path", .text endpoint.route.path),
  ("path_params", .list (endpoint.pathParams.map Param.toDatum)),
  ("query_params", .list (endpoint.queryParams.map Param.toDatum)),
  ("has_body", .flag endpoint.hasBody),
  ("summary", .text endpoint.summary),
  ("description", .text endpoint.description)]

namespace Model

def toDatum (model : Model) : Datum := .record [
  ("title", .text model.title),
  ("base_path", .text model.basePath),
  ("operations", .list (model.endpoints.map Endpoint.toDatum))]

/-- A model without endpoints; no SDK is made for it. -/
def isEmpty (model : Model) : Bool := model.endpoints.isEmpty

def hasEndpoint (model : Model) (name : String) : Bool := model.endpoints.any (·.name == name)

end Model

end SwaggerSdk
