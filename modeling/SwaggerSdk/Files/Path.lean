import SwaggerSdk.Text.Blank

/-!
# Paths

Paths as texts: names between slashes, where a single dot and an empty name stay where they are. A path is
taken apart from its end, and what remains of it is spelled as it was.
-/

namespace SwaggerSdk.Path

/-- A name that leads nowhere else. -/
def isIdle (name : List Char) : Bool := name.isEmpty || name == ['.']

def names (path : List Char) : List (List Char) := Text.split (· == '/') path

def isAbsolute (path : String) : Bool := path.toList.head? == some '/'

/-- Appends a path to another one. An absolute path replaces what it is appended to. -/
def join (base path : String) : String :=
  if isAbsolute path || base.isEmpty then path
  else if base.toList.getLast? == some '/' then base ++ path
  else base ++ "/" ++ path

/-- What a path cannot lose from its end, and the rest: the root, or a dot that it begins with. -/
def anchor (path : List Char) : List Char × List Char :=
  match path with
  | '/' :: rest => (['/'], rest)
  | ['.'] => (['.'], [])
  | '.' :: '/' :: rest => (['.'], '/' :: rest)
  | path => ([], path)

def dropIdle (names : List (List Char)) : List (List Char) := (names.reverse.dropWhile isIdle).reverse

def body (path : List Char) : List (List Char) := dropIdle (names (anchor path).2)

def parent? (path : String) : Option String :=
  let start := (anchor path.toList).1
  let body := body path.toList
  if body.isEmpty then (if start == ['.'] then some "" else none)
  else some (String.ofList (start ++ ['/'].intercalate (dropIdle body.dropLast)))

def ancestorsWithin : Nat → String → List String
  | 0, _ => []
  | fuel + 1, path =>
    path :: match parent? path with
      | some parent => ancestorsWithin fuel parent
      | none => []

/-- A path, then its parents up to the last. Each is shorter than the one before. -/
def ancestors (path : String) : List String := ancestorsWithin (path.length + 1) path

/-- The last name of a path, unless that leads upwards. -/
def fileName? (path : String) : Option (List Char) :=
  (body path.toList).getLast?.filter (· != ['.', '.'])

def fileExtension? (path : String) : Option String := do
  let name ← fileName? path
  let ending := name.reverse.takeWhile (· != '.')
  match name.reverse.drop ending.length with
  -- a dot at the beginning of a name does not count
  | _ :: _ :: _ => some (String.ofList ending.reverse)
  | _ => none

def steps (path : String) : List (List Char) := (names path.toList).filter (!isIdle ·)

/-- A path in full, given the directory to which it is relative. An empty path has no such form. -/
def absolute? (workingDirectory path : String) : Option String :=
  let root :=
    -- two slashes in front are kept, three or more are one
    match path.toList with
    | '/' :: '/' :: '/' :: _ => ""
    | '/' :: '/' :: _ => "/"
    | _ => if isAbsolute path then "" else workingDirectory
  let full := root ++ String.join ((steps path).map fun name => "/" ++ String.ofList name)
  if path.isEmpty then none
  else if path.toList.getLast? == some '/' || full.isEmpty then some (full ++ "/")
  else some full

end SwaggerSdk.Path
