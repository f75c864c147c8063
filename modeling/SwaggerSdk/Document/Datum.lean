import SwaggerSdk.Datum
import SwaggerSdk.Document.Basic

/-!
# Documents as data

How a document is written: its fields in their order under their names in the format, without those that
are absent or empty.
-/

namespace SwaggerSdk

def Info.toDatum (info : Info) : Datum := .record <|
  ("title", .text info.title) ::
    Datum.presentText "description" info.description ++ Datum.presentText "version" info.version

def Parameter.toDatum (parameter : Parameter) : Datum := .record <|
  [("name", .text parameter.name), ("in", .text parameter.location.name)] ++
    Datum.presentText "description" parameter.description ++
    [("required", .flag parameter.required)] ++
    Datum.presentText "type" parameter.type

def Entry.toDatum : Entry → Datum
  | reference target => .record [("$ref", .text target)]
  | inline parameter => parameter.toDatum

def Operation.toDatum (operation : Operation) : Datum := .record <|
  Datum.presentText "operationId" operation.id ++
    Datum.presentText "summary" operation.summary ++
    Datum.presentText "description" operation.description ++
    Datum.presentList "parameters" (operation.parameters.map Entry.toDatum)

def PathItem.toDatum (item : PathItem) : Datum := .record <|
  Datum.presentList "parameters" (item.parameters.map Entry.toDatum) ++
    item.operations.map fun (method, operation) => (String.ofList method.lowerName, operation.toDatum)

def Table.toFields {α : Type} (toDatum : α → Datum) (table : Table String α) : List (String × Datum) :=
  table.entries.map fun (name, value) => (name, toDatum value)

def Document.toDatum (document : Document) : Datum := .record <|
  Datum.presentText "swagger" document.swagger ++
    Datum.presentText "openapi" document.openapi ++
    [("info", document.info.toDatum)] ++
    Datum.presentText "host" document.host ++
    Datum.presentText "basePath" document.basePath ++
    Datum.presentRecord "paths" (document.paths.toFields PathItem.toDatum) ++
    Datum.presentRecord "parameters" (document.parameters.toFields Parameter.toDatum)

end SwaggerSdk
