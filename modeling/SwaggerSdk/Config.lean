import SwaggerSdk.Text.Blank

/-!
# Configuration

What a run is asked to do: the document to read, the directory to write, the language, and the names that
the generated code uses.
-/

namespace SwaggerSdk

inductive Language where
  | typescript | javascript
  deriving DecidableEq, Repr, Inhabited

namespace Language

def fileExtension : Language → String
  | typescript => "ts"
  | javascript => "js"

def ofName? (name : String) : Option Language :=
  match (Text.trim name.toList).map Char.toLower with
  | ['t', 's'] => some typescript
  | ['j', 's'] => some javascript
  | _ => none

end Language

inductive AuthMode where
  | anonymous | bearer
  deriving DecidableEq, Repr, Inhabited

namespace AuthMode

def name : AuthMode → String
  | anonymous => "none"
  | bearer => "bearer"

def ofName? (name : String) : Option AuthMode :=
  if name = "none" then some anonymous else if name = "bearer" then some bearer else none

/-- The form in which a mode that a user types is compared: without blanks around it, in small letters. -/
def normalName (typed : String) : String :=
  String.ofList ((Text.trim typed.toList).map Char.toLower)

def ofTyped? (typed : String) : Option AuthMode := ofName? (normalName typed)

def unknownMessage (typed : String) : String :=
  "unknown auth mode `" ++ normalName typed ++ "` (expected none or bearer)"

end AuthMode

structure Config where
  input : Option String
  /-- The directory to write into; it is created where it is missing. -/
  outputDir : String
  /-- The language as it was given, so that a wrong one is reported when it is needed. -/
  lang : String
  sdkName : String
  baseUrlVar : String
  authMode : AuthMode
  tokenFn : String
  deriving DecidableEq, Repr, Inhabited

namespace Config

def default : Config where
  input := none
  outputDir := "./sdk"
  lang := "ts"
  sdkName := "GeneratedSDK"
  baseUrlVar := "baseApiUrl"
  authMode := .bearer
  tokenFn := "getToken"

def fileName : String := ".sdkgen.yaml"

/-- The file that `init` writes; it says what holds by default, and names a document. -/
def fileTemplate : String :=
  "# sdkgen configuration\n" ++
  "input: swagger.json\n" ++
  "output_dir: ./sdk\n" ++
  "lang: ts                # ts | js\n" ++
  "\n" ++
  "sdk_name: GeneratedSDK\n" ++
  "base_url_var: baseApiUrl\n" ++
  "auth_mode: bearer       # none | bearer\n" ++
  "token_fn: getToken\n"

end Config

end SwaggerSdk
