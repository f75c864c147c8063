import SwaggerSdk.Document.Location
import SwaggerSdk.Route
import SwaggerSdk.Table

/-!
# Documents

A Swagger 2.0 document as far as an SDK depends on it: the information about the API, the operations of
its paths, and the parameters that they take or share.
-/

namespace SwaggerSdk

structure Info where
  title : String
  description : Option String
  version : Option String
  deriving DecidableEq, Repr, Inhabited

structure Parameter where
  name : String
  location : Location
  description : Option String
  required : Bool
  type : Option String
  deriving DecidableEq, Repr, Inhabited

/-- An entry of a list of parameters: a reference to a shared one, or the parameter itself. -/
inductive Entry where
  | reference (target : String)
  | inline (parameter : Parameter)
  deriving DecidableEq, Repr, Inhabited

structure Operation where
  id : Option String
  summary : Option String
  description : Option String
  parameters : List Entry
  deriving DecidableEq, Repr, Inhabited

structure PathItem where
  parameters : List Entry
  operation : Method → Option Operation
  deriving Inhabited

structure Document where
  swagger : Option String
  /-- Stands only in documents of the succeeding format. -/
  openapi : Option String
  info : Info
  host : Option String
  basePath : Option String
  paths : Table String PathItem
  parameters : Table String Parameter
  deriving Inhabited

def Info.blank : Info := ⟨"", none, none⟩

def Parameter.blank : Parameter := ⟨"", .unspecified, none, false, none⟩

def Operation.blank : Operation := ⟨none, none, none, []⟩

namespace PathItem

def blank : PathItem := ⟨[], fun _ => none⟩

def setOperation (method : Method) (operation : Option Operation) (item : PathItem) : PathItem :=
  { item with operation := fun other => if other = method then operation else item.operation other }

def operations (item : PathItem) : List (Method × Operation) :=
  Method.all.filterMap fun method => (item.operation method).map (method, ·)

theorem mem_operations {item : PathItem} {method : Method} {operation : Operation} :
    (method, operation) ∈ item.operations ↔ item.operation method = some operation := by
  simp only [operations, List.mem_filterMap, Option.map_eq_some_iff, Prod.mk.injEq]
  constructor
  · rintro ⟨_, _, _, h, rfl, rfl⟩
    exact h
  · exact fun h => ⟨method, Method.mem_all method, operation, h, rfl, rfl⟩

end PathItem

namespace Document

def blank : Document := ⟨none, none, .blank, none, none, .empty, .empty⟩

/-- The version that keeps a document from being read: any that claims to be of the succeeding format,
and any that is not of the second. -/
def foreignVersion? (document : Document) : Option String :=
  document.openapi.or (document.swagger.filter fun version => !version.startsWith "2.")

end Document

end SwaggerSdk
