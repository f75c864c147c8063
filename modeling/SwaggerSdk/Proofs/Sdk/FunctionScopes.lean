import SwaggerSdk.Proofs.Sdk.Names
import SwaggerSdk.Proofs.Sdk.Scopes

/-!
# The scopes of the functions

The functions of a package as tokens (`lines_functionsCode`). Their names are those of the endpoints, and stand in the
scope of the module with the two imports. In JavaScript the default arguments refer to `undefined`, which nothing
declares, so a function of that name captures them. `functions_hygienic_iff` says that nothing else is captured.
-/

namespace SwaggerSdk.Sdk

abbrev FunctionName := SourceName String

namespace FunctionCode

def pathType (params : List Param) : List (Token FunctionName) :=
  if params.isEmpty then [.own "Record", .text "<string, never>"]
  else [.text (literalType (fun param => literal param.name ++ ": string | number") params)]

def queryType (params : List Param) : List (Token FunctionName) :=
  if params.isEmpty then [.own "Record", .text "<string, unknown>"]
  else [.text (literalType
    (fun param => literal param.name ++ (if param.required then "" else "?") ++ ": unknown") params)]

def head (language : Language) (endpoint : Endpoint) : Code FunctionName :=
  match language with
  | .typescript =>
    [[.text "export async function ", .declares (.given endpoint.name), .enter, .text "("]] ++
    Code.indent [
      [.binds "path", .text "?: "] ++ pathType endpoint.pathParams ++ [.text ","],
      [.binds "query", .text "?: "] ++ queryType endpoint.queryParams ++ [.text ","],
      [.binds "body", .text "?: "] ++ [.text (bodyType endpoint ++ ",")],
      [.binds "config", .text ": ", .own "__requests", .text ".RequestConfig = \x7b\x7d,"]] ++
    [[.text "): ", .own "Promise", .text "<", .own "__requests", .text ".SdkResponse> \x7b"]]
  | .javascript =>
    [[.text "export async function ", .declares (.given endpoint.name), .enter, .text "(", .binds "path", .text " = ",
      .own "undefined", .text ", ", .binds "query", .text " = ", .own "undefined", .text ", ", .binds "body", .text " = ",
      .own "undefined", .text ", ", .binds "config", .text " = \x7b\x7d) \x7b"]]

def body (endpoint : Endpoint) : Code FunctionName := [
  [.text "const ", .binds "route", .text " = ", .own "__routes", .text ("." ++ endpoint.name ++ ";")],
  [.text "return ", .own "__requests", .text ".request(", .own "route", .text ".method, ", .own "route", .text ".uri, ",
    .own "path", .text ", ", .own "query", .text ", ", .own "body", .text ", ", .own "config", .text ");"]]

def function (language : Language) (endpoint : Endpoint) : Code FunctionName :=
  Code.verbatim ([""] ++ docComment endpoint) ++ head language endpoint ++ Code.indent (body endpoint) ++
    [[.text "\x7d", .leave]]

def imports (language : Language) : Code FunctionName := [
  [.text "import * as ", .binds "__requests", .text (" from " ++ moduleName language "requests" ++ ";")],
  [.text "import \x7b routes as ", .binds "__routes", .text (" \x7d from " ++ moduleName language "routes" ++ ";")]]

end FunctionCode

def functionsCode (language : Language) (opening : Lines) (endpoints : List Endpoint) : Code FunctionName :=
  Code.verbatim opening ++ FunctionCode.imports language ++ endpoints.flatMap (FunctionCode.function language)

/-! ### The text -/

section Text

attribute [local simp] spelledLine Token.spelled Token.binds Token.own SourceName.spelled

theorem lines_pathType (params : List Param) :
    spelledLine (SourceName.spelled id) (FunctionCode.pathType params) = pathType params := by
  unfold FunctionCode.pathType pathType
  split <;> simp

theorem lines_queryType (params : List Param) :
    spelledLine (SourceName.spelled id) (FunctionCode.queryType params) = queryType params := by
  unfold FunctionCode.queryType queryType
  split <;> simp

theorem lines_head (language : Language) (endpoint : Endpoint) :
    (FunctionCode.head language endpoint).lines (SourceName.spelled id) = functionHead language endpoint := by
  cases language with
  | typescript =>
    simp only [FunctionCode.head, functionHead, Code.lines_append, Code.lines_indent, Code.lines_cons, Code.lines_nil,
      Code.spelledLine_append, lines_pathType, lines_queryType]
    simp [String.append_assoc]
  | javascript => simp [FunctionCode.head, functionHead, String.append_assoc]

theorem lines_function (language : Language) (endpoint : Endpoint) :
    (FunctionCode.function language endpoint).lines (SourceName.spelled id) = function language endpoint := by
  have body : (FunctionCode.body endpoint).lines (SourceName.spelled id) = functionBody endpoint := by
    simp [FunctionCode.body, functionBody, ← String.append_assoc]
  simp [FunctionCode.function, function, lines_head, body]

theorem lines_functionsCode (language : Language) (config : Config) (model : Model) :
    (functionsCode language (opening config) model.endpoints).lines (SourceName.spelled id) = functions language config model := by
  have imports : (FunctionCode.imports language).lines (SourceName.spelled id) = functionImports language := by
    simp [FunctionCode.imports, functionImports, ← String.append_assoc]
  have each : Code.lines (SourceName.spelled id) (model.endpoints.flatMap (FunctionCode.function language)) =
      model.endpoints.flatMap (function language) := by
    rw [Code.lines, List.map_flatMap]
    exact List.flatMap_congr fun endpoint _ => lines_function language endpoint
  simp [functionsCode, functions, imports, each]

end Text

/-! ### The uses of names -/

/-- What the head of a function uses in its scope: whether it declares a name, and the name. -/
def headUses (language : Language) (endpoint : Endpoint) : List (Bool × String) :=
  match language with
  | .typescript =>
    [(true, "path")] ++ (if endpoint.pathParams.isEmpty then [(false, "Record")] else []) ++
    [(true, "query")] ++ (if endpoint.queryParams.isEmpty then [(false, "Record")] else []) ++
    [(true, "body"), (true, "config"), (false, "__requests"), (false, "Promise"), (false, "__requests")]
  | .javascript =>
    [(true, "path"), (false, "undefined"), (true, "query"), (false, "undefined"), (true, "body"), (false, "undefined"),
      (true, "config")]

def bodyUses : List (Bool × String) :=
  [(true, "route"), (false, "__routes"), (false, "__requests"), (false, "route"), (false, "route"), (false, "path"),
    (false, "query"), (false, "body"), (false, "config")]

def localUse (scope : Nat) (use : Bool × String) : Use FunctionName := ⟨[scope, 0], use.1, .own use.2⟩

/-- The uses of names in a function whose scope has the given number. -/
def functionUses (language : Language) (scope : Nat) (endpoint : Endpoint) : List (Use FunctionName) :=
  ⟨[0], true, .given endpoint.name⟩ :: (headUses language endpoint ++ bodyUses).map (localUse scope)

theorem usesFrom_function (language : Language) (endpoint : Endpoint) (scope : Nat) (code : Code FunctionName) :
    usesFrom [0] scope (FunctionCode.function language endpoint ++ code).flatten =
      functionUses language scope endpoint ++ usesFrom [0] (scope + 1) code.flatten := by
  rw [FunctionCode.function, List.append_assoc, List.append_assoc, List.append_assoc, usesFrom_verbatim_append]
  cases language with
  | javascript => rfl
  | typescript =>
    simp only [FunctionCode.head, FunctionCode.pathType, FunctionCode.queryType, functionUses, headUses]
    split <;> split <;> rfl

theorem usesFrom_functions (language : Language) (scope : Nat) (endpoints : List Endpoint) :
    usesFrom [0] scope (endpoints.flatMap (FunctionCode.function language)).flatten =
      (endpoints.zipIdx scope).flatMap fun (endpoint, scope) => functionUses language scope endpoint := by
  induction endpoints generalizing scope with
  | nil => rfl
  | cons endpoint endpoints ih => rw [List.flatMap_cons, usesFrom_function, ih, List.zipIdx_cons, List.flatMap_cons]

def importUses : List (Use FunctionName) := [⟨[0], true, .own "__requests"⟩, ⟨[0], true, .own "__routes"⟩]

/-- The functions have scopes of their own, numbered from 1 on. -/
theorem uses_functionsCode (language : Language) (opening : Lines) (endpoints : List Endpoint) :
    (functionsCode language opening endpoints).uses =
      importUses ++ (endpoints.zipIdx 1).flatMap fun (endpoint, scope) => functionUses language scope endpoint := by
  rw [functionsCode, List.append_assoc, Code.uses, usesFrom_verbatim_append, ← usesFrom_functions]
  rfl

/-! ### What is declared and what is referred to -/

def importNames : List String := ["__requests", "__routes"]

def localNames : List String := ["path", "query", "body", "config", "route"]

/-- What the functions refer to although nothing declares it. -/
def freeReferences : Language → List String
  | .typescript => ["Promise", "Record"]
  | .javascript => ["undefined"]

section Uses

variable {language : Language} {opening : Lines} {endpoints : List Endpoint}

theorem declaredIn_functionUses (scope : Nat) (endpoint : Endpoint) :
    declaredIn (functionUses language scope endpoint) =
      (0, .given endpoint.name) :: localNames.map fun spelling => (scope, .own spelling) := by
  cases language with
  | javascript => rfl
  | typescript =>
    simp only [functionUses, headUses]
    split <;> split <;> rfl

theorem declaredIn_functionsCode :
    declaredIn (functionsCode language opening endpoints).uses =
      importNames.map (fun spelling => (0, .own spelling)) ++ (endpoints.zipIdx 1).flatMap fun (endpoint, scope) =>
        (0, .given endpoint.name) :: localNames.map fun spelling => (scope, .own spelling) := by
  rw [uses_functionsCode, declaredIn_append]
  refine congrArg (_ ++ ·) ?_
  rw [declaredIn, List.filterMap_flatMap]
  exact List.flatMap_congr fun slot _ => declaredIn_functionUses slot.2 slot.1

/-- What is declared: in the scope of the module the imports and the endpoints, in each function the same names. -/
theorem mem_declaredIn {declaration : Nat × FunctionName} :
    declaration ∈ declaredIn (functionsCode language opening endpoints).uses ↔
      (∃ spelling ∈ importNames, declaration = (0, .own spelling)) ∨
      ∃ endpoint scope, (endpoint, scope) ∈ endpoints.zipIdx 1 ∧
        (declaration = (0, .given endpoint.name) ∨ ∃ spelling ∈ localNames, declaration = (scope, .own spelling)) := by
  simp only [declaredIn_functionsCode, List.mem_append, List.mem_flatMap, List.mem_map, List.mem_cons, Prod.exists,
    eq_comm (b := declaration)]

theorem spelling_of_reference {endpoint : Endpoint} {use : Bool × String}
    (listed : use ∈ headUses language endpoint ++ bodyUses) (refers : use.1 = false) :
    use.2 ∈ localNames ++ importNames ++ freeReferences language := by
  revert use
  cases language with
  | javascript =>
    simp only [headUses]
    decide
  | typescript =>
    simp only [headUses]
    split <;> split <;> decide

/-- All references are in functions, and to names that are not those of endpoints. -/
theorem exists_of_mem_referencesIn {use : Use FunctionName}
    (listed : use ∈ referencesIn (functionsCode language opening endpoints).uses) :
    ∃ endpoint scope, (endpoint, scope) ∈ endpoints.zipIdx 1 ∧
      ∃ spelling ∈ localNames ++ importNames ++ freeReferences language, use = localUse scope (false, spelling) := by
  obtain ⟨member, refers⟩ := List.mem_filter.mp listed
  rw [uses_functionsCode] at member
  rcases List.mem_append.mp member with imported | member
  · have declares : ∀ use ∈ importUses, use.isDeclaration := by simp [importUses]
    rw [declares use imported] at refers
    cases refers
  obtain ⟨⟨endpoint, scope⟩, numbered, inside⟩ := List.mem_flatMap.mp member
  refine ⟨endpoint, scope, numbered, ?_⟩
  rcases List.mem_cons.mp inside with rfl | inside
  · cases refers
  · obtain ⟨⟨isDeclaration, spelling⟩, here, rfl⟩ := List.mem_map.mp inside
    obtain rfl : isDeclaration = false := by simpa [localUse] using refers
    exact ⟨spelling, spelling_of_reference here rfl, rfl⟩

theorem nodup_declaredIn_functionsCode (distinct : (endpoints.map (·.name)).Nodup) :
    (declaredIn (functionsCode language opening endpoints).uses).Nodup := by
  have names : (endpoints.zipIdx 1).Pairwise fun here other => here.1.name ≠ other.1.name := by
    have first : ((endpoints.zipIdx 1).map Prod.fst).Pairwise fun here other => here.name ≠ other.name := by
      rw [List.zipIdx_map_fst]
      exact List.pairwise_map.mp distinct
    rwa [List.pairwise_map] at first
  have scopes : (endpoints.zipIdx 1).Pairwise fun here other => here.2 ≠ other.2 := by
    have second : ((endpoints.zipIdx 1).map Prod.snd).Pairwise fun here other => here ≠ other := by
      rw [List.zipIdx_map_snd]
      exact List.nodup_range'
    rwa [List.pairwise_map] at second
  -- an endpoint is named in the scope of the module, and what its function declares is in a scope of its own
  rw [declaredIn_functionsCode, List.nodup_append, List.nodup_flatMap]
  refine ⟨by decide, ⟨?_, ?_⟩, ?_⟩
  · rintro ⟨endpoint, scope⟩ -
    simp [localNames]
  · refine (names.and scopes).imp fun {here other} apart declaration declared declared' => ?_
    simp only [List.mem_cons, List.mem_map] at declared declared'
    rcases declared with rfl | ⟨spelling, -, rfl⟩
    · rcases declared' with same | ⟨spelling, -, same⟩
      · exact apart.1 (SourceName.given.inj (Prod.ext_iff.mp same).2)
      · cases (Prod.ext_iff.mp same).2
    · rcases declared' with same | ⟨spelling, -, same⟩
      · cases (Prod.ext_iff.mp same).2
      · exact apart.2 (Prod.ext_iff.mp same).1.symm
  · rintro imported here declaration inside rfl
    obtain ⟨spelling, -, rfl⟩ := List.mem_map.mp here
    obtain ⟨⟨endpoint, scope⟩, numbered, declared⟩ := List.mem_flatMap.mp inside
    rcases List.mem_cons.mp declared with same | declared
    · cases (Prod.ext_iff.mp same).2
    · obtain ⟨spelling', -, same⟩ := List.mem_map.mp declared
      have above : 1 ≤ scope := List.le_snd_of_mem_zipIdx numbered
      have here : scope = 0 := (Prod.ext_iff.mp same).1
      omega

/-! ### What is captured -/

theorem of_mem_declaredIn_endpoint {scope : Nat} {name : String}
    (declared : (scope, .given name) ∈ declaredIn (functionsCode language opening endpoints).uses) :
    scope = 0 ∧ ∃ endpoint ∈ endpoints, endpoint.name = name := by
  rcases mem_declaredIn.mp declared with ⟨spelling, -, same⟩ | ⟨endpoint, own, numbered, same | ⟨spelling, -, same⟩⟩
  · cases (Prod.ext_iff.mp same).2
  · obtain ⟨rfl, named⟩ := Prod.ext_iff.mp same
    exact ⟨rfl, endpoint, List.fst_mem_of_mem_zipIdx numbered, (SourceName.given.inj named).symm⟩
  · cases (Prod.ext_iff.mp same).2

theorem of_mem_declaredIn_own {scope : Nat} {spelling : String}
    (declared : (scope, .own spelling) ∈ declaredIn (functionsCode language opening endpoints).uses) :
    (scope = 0 ∧ spelling ∈ importNames) ∨ (scope ≠ 0 ∧ spelling ∈ localNames) := by
  rcases mem_declaredIn.mp declared with ⟨name, listed, same⟩ | ⟨endpoint, own, numbered, same | ⟨name, listed, same⟩⟩
  · obtain ⟨rfl, spelled⟩ := Prod.ext_iff.mp same
    exact .inl ⟨rfl, SourceName.own.inj spelled ▸ listed⟩
  · cases (Prod.ext_iff.mp same).2
  · obtain ⟨here, spelled⟩ := Prod.ext_iff.mp same
    have above : 1 ≤ own := List.le_snd_of_mem_zipIdx numbered
    exact .inr ⟨by omega, SourceName.own.inj spelled ▸ listed⟩

theorem startsLower_importNames : ∀ spelling ∈ importNames, Naming.startsLower spelling = false := by decide

theorem keptApart_functionsCode (lower : ∀ endpoint ∈ endpoints, Naming.startsLower endpoint.name)
    (free : ∀ endpoint ∈ endpoints, endpoint.name ∉ freeReferences language) :
    KeptApart (functionsCode language opening endpoints).uses (SourceName.spelled id) := by
  have apart : ∀ spelling, (0, .own spelling) ∈ declaredIn (functionsCode language opening endpoints).uses →
      (0, .given spelling) ∉ declaredIn (functionsCode language opening endpoints).uses := by
    intro spelling own declared
    obtain ⟨-, endpoint, listed, rfl⟩ := of_mem_declaredIn_endpoint declared
    rcases of_mem_declaredIn_own own with ⟨-, imported⟩ | ⟨inside, -⟩
    · have capital := startsLower_importNames _ imported
      rw [lower endpoint listed] at capital
      cases capital
    · exact inside rfl
  constructor
  case declared =>
    rintro ⟨scope, name⟩ here ⟨scope', name'⟩ there both different same
    obtain rfl : scope' = scope := both
    rcases SourceName.eq_or_exists_given Function.injective_id same with rfl | ⟨spelling, ⟨rfl, rfl⟩ | ⟨rfl, rfl⟩⟩
    · exact different rfl
    · obtain ⟨rfl, -⟩ := of_mem_declaredIn_endpoint there
      exact apart spelling here there
    · obtain ⟨rfl, -⟩ := of_mem_declaredIn_endpoint here
      exact apart spelling there here
  case passed =>
    rintro use refers scope passes ⟨scope', name⟩ declared there same
    obtain rfl : scope' = scope := there
    obtain ⟨endpoint, own, numbered, spelling, listed, rfl⟩ := exists_of_mem_referencesIn refers
    have absent := List.mem_takeWhile_imp passes
    rw [decide_eq_true_eq] at absent
    rcases SourceName.eq_or_exists_given Function.injective_id same with rfl | ⟨spelling', ⟨named, rfl⟩ | ⟨named, -⟩⟩
    · exact absent declared
    · obtain rfl := SourceName.own.inj named
      obtain ⟨rfl, other, member, rfl⟩ := of_mem_declaredIn_endpoint declared
      rcases List.mem_append.mp listed with listed | unbound
      · rcases List.mem_append.mp listed with inside | imported
        · -- the function declares the name, so the scope of the module is not reached
          have found : (own, .own other.name) ∈ declaredIn (functionsCode language opening endpoints).uses :=
            mem_declaredIn.mpr (.inr ⟨endpoint, own, numbered, .inr ⟨_, inside, rfl⟩⟩)
          have stops : (localUse own (false, other.name)).passed
              (declaredIn (functionsCode language opening endpoints).uses) = [] := by
            simp [Use.passed, localUse, found]
          rw [stops] at passes
          cases passes
        · exact absent (mem_declaredIn.mpr (.inl ⟨_, imported, rfl⟩))
      · exact free other member unbound
    · cases named

/-- The default arguments of JavaScript refer to an endpoint that is named `undefined`. -/
theorem not_keptApart_functionsCode (listed : ∃ endpoint ∈ endpoints, endpoint.name = "undefined") :
    ¬KeptApart (functionsCode .javascript opening endpoints).uses (SourceName.spelled id) := by
  intro kept
  obtain ⟨endpoint, member, named⟩ := listed
  rw [← List.zipIdx_map_fst 1 endpoints, List.mem_map] at member
  obtain ⟨⟨_, scope⟩, numbered, rfl⟩ := member
  have declared : (0, .given "undefined") ∈ declaredIn (functionsCode .javascript opening endpoints).uses :=
    mem_declaredIn.mpr (.inr ⟨_, scope, numbered, .inl (by rw [← named])⟩)
  have refers : localUse scope (false, "undefined") ∈ referencesIn (functionsCode .javascript opening endpoints).uses := by
    rw [uses_functionsCode]
    refine List.mem_filter.mpr ⟨List.mem_append_right _ (List.mem_flatMap.mpr ⟨_, numbered, ?_⟩), rfl⟩
    exact List.mem_cons_of_mem _ (List.mem_map_of_mem (List.mem_cons_of_mem _ List.mem_cons_self))
  have unbound : ∀ scope', (scope', .own "undefined") ∉ declaredIn (functionsCode .javascript opening endpoints).uses := by
    intro scope' declared
    rcases of_mem_declaredIn_own declared with ⟨-, imported⟩ | ⟨-, inside⟩
    · exact absurd imported (by decide)
    · exact absurd inside (by decide)
  -- no scope declares the name of the language, so the reference passes that of the module
  have passes : 0 ∈ (localUse scope (false, "undefined")).passed
      (declaredIn (functionsCode .javascript opening endpoints).uses) := by
    simp [Use.passed, localUse, unbound]
  exact kept.passed _ refers 0 passes _ declared rfl rfl

end Uses

theorem hygienic_functionsCode_iff (language : Language) (opening : Lines) (document : Document) :
    Hygienic (functionsCode language opening (Model.ofDocument document).endpoints) (SourceName.spelled id) ↔
      (language = .javascript → "undefined" ∉ (Model.ofDocument document).names) := by
  have lower : ∀ endpoint ∈ (Model.ofDocument document).endpoints, Naming.startsLower endpoint.name :=
    fun endpoint listed => document.startsLower_endpoint listed
  rw [hygienic_iff_keptApart (nodup_declaredIn_functionsCode document.nodup_names)]
  constructor
  · rintro kept rfl named
    exact not_keptApart_functionsCode (List.mem_map.mp named) kept
  · intro unnamed
    refine keptApart_functionsCode lower fun endpoint listed unbound => ?_
    cases language with
    | javascript =>
      rw [freeReferences, List.mem_singleton] at unbound
      exact unnamed rfl (List.mem_map.mpr ⟨endpoint, listed, unbound⟩)
    | typescript =>
      have capital : ∀ spelling ∈ freeReferences .typescript, Naming.startsLower spelling = false := by decide
      have small := lower endpoint listed
      rw [capital _ unbound] at small
      cases small

/-- The functions of a package, for all documents: no endpoint is named like an import, no name is declared twice, and no
reference is captured, unless JavaScript is generated and an operation wants to be called `undefined`. -/
theorem functions_hygienic_iff (language : Language) (config : Config) (document : Document) :
    ((functionsCode language (opening config) (Model.ofDocument document).endpoints).lines
      (SourceName.spelled id)).toText = render language config (Model.ofDocument document) .functions ∧
    (∀ name ∈ (Model.ofDocument document).names, name ≠ "__requests" ∧ name ≠ "__routes") ∧
    (Hygienic (functionsCode language (opening config) (Model.ofDocument document).endpoints) (SourceName.spelled id) ↔
      (language = .javascript → ∀ slot ∈ document.slots, slot.candidate ≠ "undefined")) := by
  refine ⟨congrArg Lines.toText (lines_functionsCode language config _), fun name listed => ?_, ?_⟩
  · constructor
    · rintro rfl
      exact document.notMem_names (by decide +kernel) listed
    · rintro rfl
      exact document.notMem_names (by decide +kernel) listed
  · rw [hygienic_functionsCode_iff, document.mem_names_iff (by decide)]
    simp only [not_exists, not_and, ne_eq]

def capturingItem : PathItem := PathItem.blank.setOperation .get (some { Operation.blank with id := some "undefined" })

def capturingDocument : Document := { Document.blank with paths := ⟨[("/a", capturingItem)], by decide⟩ }

/-- The id is kept as the name of the function, and its default arguments refer to the function. -/
theorem functions_capture_undefined :
    "undefined" ∈ (Model.ofDocument capturingDocument).names ∧
    ¬Hygienic (functionsCode .javascript (opening .default) (Model.ofDocument capturingDocument).endpoints)
      (SourceName.spelled id) := by
  have named : "undefined" ∈ (Model.ofDocument capturingDocument).names := by
    refine (capturingDocument.mem_names_iff (by decide)).mpr
      ⟨⟨⟨.get, "/a"⟩, capturingItem, { Operation.blank with id := some "undefined" }⟩, ?_, by decide +kernel⟩
    exact capturingDocument.mem_slots.mpr ⟨List.mem_cons_self, rfl⟩
  exact ⟨named, fun hygienic => (hygienic_functionsCode_iff _ _ _).mp hygienic rfl named⟩

end SwaggerSdk.Sdk
