import SwaggerSdk.Model.Parameters
import SwaggerSdk.Naming.Candidate
import SwaggerSdk.Naming.Claims

/-!
# From document to model

Every operation becomes an endpoint. Its name is given once the claims of all operations are known, and the
endpoints are sorted by name, so the model does not depend on the order of the paths.
-/

namespace SwaggerSdk

structure Slot where
  route : Route
  item : PathItem
  operation : Operation

namespace Document

def slots (document : Document) : List Slot :=
  document.paths.entries.flatMap fun (path, item) =>
    item.operations.map fun (method, operation) => ⟨⟨method, path⟩, item, operation⟩

/-- What every operation claims: its candidate, under the key of its route. -/
def claims (document : Document) : Naming.Claims :=
  .ofList <| document.slots.map fun slot =>
    (slot.route.key, Naming.candidate slot.route slot.operation.id)

def parametersOf (document : Document) (slot : Slot) : List Parameter :=
  Parameter.merge (document.resolve slot.item.parameters) (document.resolve slot.operation.parameters)

def endpoint (document : Document) (name : String) (slot : Slot) : Endpoint :=
  let parameters := document.parametersOf slot
  { name
    route := slot.route
    pathParams := Parameter.located .path parameters
    queryParams := Parameter.located .query parameters
    hasBody := parameters.any (·.isBody)
    summary := Text.trimmed (slot.operation.summary.getD "")
    description := Text.trimmed (slot.operation.description.getD "") }

def displayTitle (document : Document) : String :=
  let title := Text.trimmed document.info.title
  if title.isEmpty then "API" else title

end Document

def Model.ofDocument (document : Document) : Model :=
  let names := document.claims.resolve
  let endpoints := document.slots.map fun slot =>
    document.endpoint ((names.lookup slot.route.key).getD "") slot
  { title := document.displayTitle
    basePath := Text.trimmed (document.basePath.getD "")
    endpoints := endpoints.mergeSort fun a b => decide (a.name ≤ b.name) }

end SwaggerSdk
