import SwaggerSdk.Document.Basic
import SwaggerSdk.Document.Pointer
import SwaggerSdk.Model.Basic

/-!
# The parameters of an endpoint

References are resolved, an operation's own parameters take the place of those that its path shares, and
what is left is parted by location.
-/

namespace SwaggerSdk

def Document.resolveEntry (document : Document) : Entry → Option Parameter
  | .inline parameter => some parameter
  | .reference target => (Pointer.parameterName? target).bind document.parameters.get?

def Document.resolve (document : Document) (entries : List Entry) : List Parameter :=
  -- entries that stand for nothing are passed over
  entries.filterMap document.resolveEntry

namespace Parameter

/-- Whether two parameters have the same name and location, so that one can take the other's place. -/
def replaces (parameter other : Parameter) : Bool :=
  parameter.name == other.name && parameter.location == other.location

/-- An operation's own parameters, behind the shared ones whose place none of them takes. -/
def merge (shared own : List Parameter) : List Parameter :=
  (shared.filter fun parameter => !own.any (·.replaces parameter)) ++ own

def toParam (parameter : Parameter) : Param := ⟨parameter.name, parameter.required⟩

/-- The parameters at a location, by name; those of one name stay in their order. -/
def located (location : KnownLocation) (parameters : List Parameter) : List Param :=
  ((parameters.filter (·.location == .known location)).map toParam).mergeSort
    fun a b => decide (a.name ≤ b.name)

def isBody (parameter : Parameter) : Bool :=
  parameter.location == .known .body || parameter.location == .known .formData

end Parameter

end SwaggerSdk
