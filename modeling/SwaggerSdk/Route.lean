/-!
# Routes

An HTTP method bound to a path template. The key of a route, the method and the path with a space between
them, identifies it.
-/

namespace SwaggerSdk

inductive Method where
  | get | put | post | delete | options | head | patch
  deriving DecidableEq, Repr, Inhabited

namespace Method

def name : Method → String
  | get => "GET"
  | put => "PUT"
  | post => "POST"
  | delete => "DELETE"
  | options => "OPTIONS"
  | head => "HEAD"
  | patch => "PATCH"

def all : List Method := [get, put, post, delete, options, head, patch]

def ofName? (name : String) : Option Method := all.find? (·.name == name)

def lowerName (method : Method) : List Char := method.name.toList.map Char.toLower

theorem mem_all (method : Method) : method ∈ all := by cases method <;> decide

theorem ofName?_name (method : Method) : ofName? method.name = some method := by cases method <;> decide

end Method

structure Route where
  method : Method
  path : String
  deriving DecidableEq, Repr, Inhabited

/-- The text that identifies a route and seeds its digest. -/
def Route.key (route : Route) : String := route.method.name ++ " " ++ route.path

end SwaggerSdk
