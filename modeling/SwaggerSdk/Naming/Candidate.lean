import SwaggerSdk.Naming.Words
import SwaggerSdk.Route

/-!
# Candidate names

The name that an operation would have if it were alone: its explicit id or else its route, as an
identifier in lower camel case that is not reserved. Making names unique is the matter of
`SwaggerSdk.Naming.Claims`.
-/

namespace SwaggerSdk.Naming

def isPlaceholder (segment : List Char) : Bool :=
  segment.head? == some '\x7b' && segment.getLast? == some '\x7d'

/-- The tokens of one path segment; a placeholder reads as `by` and its name. -/
def segmentTokens (segment : List Char) : List (List Char) :=
  if isPlaceholder segment then
    [['b', 'y'], Text.strip (fun c => c == '\x7b' || c == '\x7d') segment]
  else [segment]

def routeNameChars (method : Method) (path : List Char) : List Char :=
  let segments := (Text.split (· == '/') path).filter (!·.isEmpty)
  ['_'].intercalate (method.lowerName :: segments.flatMap segmentTokens)

def explicitId? (id? : Option String) : Option (List Char) :=
  (id?.map fun id => Text.trim id.toList).filter (!·.isEmpty)

def rawNameChars (method : Method) (path : List Char) (id? : Option String) : List Char :=
  (explicitId? id?).getD (routeNameChars method path)

def avoidReserved (name : List Char) : List Char :=
  if isReserved (String.ofList name) then name ++ ['O', 'p'] else name

/-- A name that can be declared, made from any text. -/
def declarableChars (raw : List Char) : List Char :=
  let name := camelCaseChars (sanitizeChars raw)
  avoidReserved (if name.isEmpty then fallback else name)

def candidateChars (method : Method) (path : List Char) (id? : Option String) : List Char :=
  declarableChars (rawNameChars method path id?)

def routeName (route : Route) : String := String.ofList (routeNameChars route.method route.path.toList)

def rawName (route : Route) (id? : Option String) : String :=
  String.ofList (rawNameChars route.method route.path.toList id?)

/-- The name that an operation would have if it were alone. -/
def candidate (route : Route) (id? : Option String) : String :=
  String.ofList (candidateChars route.method route.path.toList id?)

end SwaggerSdk.Naming
