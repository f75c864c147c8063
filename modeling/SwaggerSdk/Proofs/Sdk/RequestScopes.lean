import SwaggerSdk.Proofs.Sdk.Names
import SwaggerSdk.Proofs.Sdk.Scopes

/-!
# The scopes of the code that sends requests

The code as tokens (`lines_requestCode`). The base URL and the function for the credential have chosen names, and stand in
the scope of the module with names of the code's own. `requests_hygienic_iff` says for which of the names that the checks
accept a scope declares a name twice or a reference is captured: they are those in `unkeptNames`.
-/

namespace SwaggerSdk.Sdk

/-- The names that a configuration chooses for the code that sends requests. -/
inductive Choice where
  | baseUrl
  | token
  deriving DecidableEq

def Choice.all : List Choice := [baseUrl, token]

def Choice.spelled (config : Config) : Choice → String
  | baseUrl => config.baseUrlVar
  | token => config.tokenFn

abbrev RequestName := SourceName Choice

def spellingOf (config : Config) : RequestName → String := SourceName.spelled (Choice.spelled config)

@[simp] theorem spellingOf_own (config : Config) (spelling : String) : spellingOf config (.own spelling) = spelling := rfl

@[simp] theorem spellingOf_baseUrl (config : Config) : spellingOf config (.given .baseUrl) = config.baseUrlVar := rfl

@[simp] theorem spellingOf_token (config : Config) : spellingOf config (.given .token) = config.tokenFn := rfl

namespace RequestCode

abbrev binds (spelling : String) : Token RequestName := .binds spelling

abbrev own (spelling : String) : Token RequestName := .own spelling

/-- A function behind an empty line; its parameters and its body are in a scope that its head enters. -/
def typedFunction (language : Language) (types : List String) (typed plain : List (Token RequestName))
    (body : Code RequestName) : Code RequestName :=
  match language with
  | .typescript => [] :: Code.block [.leave] typed body
  | .javascript => [] :: Code.verbatim (comment types) ++ Code.block [.leave] plain body

def baseUrlDeclaration (language : Language) (value : String) : Code RequestName :=
  let type := match language with
    | .typescript => ": string"
    | .javascript => ""
  [[.text "export let ", .declares (.given .baseUrl), .text (type ++ " = " ++ value ++ ";")]]

def declarations (language : Language) (value : String) : Code RequestName :=
  match language with
  | .typescript =>
    [[.text "import ", binds "axios", .text " from \"axios\";"],
      [.text "import type \x7b ", binds "AxiosRequestConfig", .text ", ", binds "RawAxiosRequestHeaders",
        .text " \x7d from \"axios\";"],
      []] ++
    baseUrlDeclaration language value ++
    [[],
      [.text "export type ", binds "TokenProvider", .text (" = () => " ++ tokenType ++ " | "), own "Promise",
        .text ("<" ++ tokenType ++ ">;")],
      [],
      [.text "let ", binds "tokenProvider", .text ": ", own "TokenProvider", .text " = () => ", own "undefined", .text ";"],
      [],
      [.text "export type ", binds "RequestConfig", .text " = ", own "Omit", .text "<", own "AxiosRequestConfig",
        .text ", \"method\" | \"url\" | \"params\" | \"data\">;"],
      []] ++
    Code.block [.leave] [.text "export interface ", binds "SdkResponse", .enter, .text "<", binds "T", .text " = unknown>"] [
      [.text "success: boolean;"],
      [.text "status: number;"],
      [.text "data: ", own "T", .text " | null;"],
      [.text "error: unknown;"]]
  | .javascript =>
    [[.text "import ", binds "axios", .text " from \"axios\";"], []] ++
    baseUrlDeclaration language value ++
    [[],
      [.text ("/** @type \x7b() => (" ++ providedType ++ ")\x7d */")],
      [.text "let ", binds "tokenProvider", .text " = () => ", own "undefined", .text ";"]]

def settings (language : Language) : Code RequestName :=
  typedFunction language ["@param \x7bstring\x7d url"]
    [.text "export function ", binds "setBaseUrl", .enter, .text "(", binds "url", .text ": string): void"]
    [.text "export function ", binds "setBaseUrl", .enter, .text "(", binds "url", .text ")"]
    [[.refers (.given .baseUrl), .text " = ", own "url", .text ";"]] ++
  typedFunction language ["@param \x7b() => (" ++ providedType ++ ")\x7d provider"]
    [.text "export function ", binds "setTokenProvider", .enter, .text "(", binds "provider", .text ": ",
      own "TokenProvider", .text "): void"]
    [.text "export function ", binds "setTokenProvider", .enter, .text "(", binds "provider", .text ")"]
    [[own "tokenProvider", .text " = ", own "provider", .text ";"]] ++
  typedFunction language ["@returns \x7bPromise<" ++ tokenType ++ ">\x7d"]
    [.text "export async function ", .declares (.given .token), .enter, .text "(): ", own "Promise", .text ("<" ++ tokenType ++ ">")]
    [.text "export async function ", .declares (.given .token), .enter, .text "()"]
    [[.text "return ", own "tokenProvider", .text "();"]]

/-- The function that fills one placeholder of a path. -/
def placeholderValue (language : Language) : Code RequestName :=
  let arguments := match language with
    | .typescript => [.text "(", binds "_match", .text ": string, ", binds "key", .text ": string)"]
    | .javascript => [.text "(", binds "_match", .text ", ", binds "key", .text ")"]
  Code.block [.leave, .text ");"]
    ([.text "const ", binds "resolved", .text " = ", own "uri", .text ".replace(/\\\x7b([^\x7d]+)\\\x7d/g, ", .enter] ++
      arguments ++ [.text " =>"])
    ([[.text "const ", binds "value", .text " = ", own "path", .text "?.[", own "key", .text "];"]] ++
      Code.block []
        [.text "if (", own "value", .text " === ", own "undefined", .text " || ", own "value", .text " === null)"]
        [[.text "throw new ", own "Error", .text "(`missing path parameter \"$\x7b", own "key", .text "\x7d\" for $\x7b",
          own "uri", .text "\x7d`);"]] ++
      [[.text "return ", own "encodeURIComponent", .text "(", own "String", .text "(", own "value", .text "));"]])

def urlBuilder (language : Language) : Code RequestName :=
  typedFunction language [
      "@param \x7bstring\x7d uri",
      "@param \x7bRecord<string, unknown> | undefined\x7d path",
      "@returns \x7bstring\x7d"]
    [.text "export function ", binds "buildUrl", .enter, .text "(", binds "uri", .text ": string, ", binds "path",
      .text "?: ", own "Record", .text "<string, unknown>): string"]
    [.text "export function ", binds "buildUrl", .enter, .text "(", binds "uri", .text ", ", binds "path", .text ")"]
    (placeholderValue language ++
      [[.text "return ", .refers (.given .baseUrl), .text ".replace(/\\/+$/, \"\") + ", own "resolved", .text ";"]])

def authorization : AuthMode → Code RequestName
  | .anonymous => []
  | .bearer =>
    [[.text "const ", binds "token", .text " = await ", .refers (.given .token), .text "();"]] ++
    Code.block [] [.text "if (", own "token", .text ")"]
      [[own "headers", .text ".Authorization = `Bearer $\x7b", own "token", .text "\x7d`;"]]

def headerDeclaration : Language → Code RequestName
  | .typescript =>
    Code.block [.text ";"] [.text "const ", binds "headers", .text ": ", own "RawAxiosRequestHeaders", .text " ="]
      [[.text "...(", own "config", .text ".headers as ", own "RawAxiosRequestHeaders", .text " | undefined),"]]
  | .javascript => [[.text "const ", binds "headers", .text " = \x7b ...", own "config", .text ".headers \x7d;"]]

def sending (language : Language) : Code RequestName :=
  let call := match language with
    | .typescript => [own "axios", .text ".request<", own "T", .text ">("]
    | .javascript => [own "axios", .text ".request("]
  [[.text "const ", binds "response", .text " = await "] ++ call ++ [.text "\x7b"]] ++
  Code.indent [
    [.text "...", own "config", .text ","],
    [own "method", .text ","],
    [.text "url: ", own "buildUrl", .text "(", own "uri", .text ", ", own "path", .text "),"],
    [.text "params: ", own "query", .text ","],
    [.text "data: ", own "body", .text ","],
    [own "headers", .text ","]] ++
  [[.text "\x7d);"],
    [.text "return \x7b success: true, status: ", own "response", .text ".status, data: ", own "response",
      .text ".data, error: null \x7d;"]]

def failing (language : Language) : Code RequestName :=
  let data := match language with
    | .typescript => [.text "(", own "error", .text ".response?.data as ", own "T", .text " | undefined)"]
    | .javascript => [own "error", .text ".response?.data"]
  Code.block [] [.text "if (", own "axios", .text ".isAxiosError(", own "error", .text "))"]
    (Code.block [.text ";"] [.text "return"] [
      [.text "success: false,"],
      [.text "status: ", own "error", .text ".response?.status ?? 0,"],
      [.text "data: "] ++ data ++ [.text " ?? null,"],
      [own "error", .text ","]]) ++
  [[.text "return \x7b success: false, status: 0, data: null, ", own "error", .text " \x7d;"]]

def requestHead : Language → Code RequestName
  | .typescript =>
    [[], [.text "export async function ", binds "request", .enter, .text "<", binds "T", .text " = unknown>("]] ++
    Code.indent [
      [binds "method", .text ": string,"],
      [binds "uri", .text ": string,"],
      [binds "path", .text "?: ", own "Record", .text "<string, unknown>,"],
      [binds "query", .text "?: ", own "Record", .text "<string, unknown>,"],
      [binds "body", .text "?: unknown,"],
      [binds "config", .text ": ", own "RequestConfig", .text " = \x7b\x7d,"]] ++
    [[.text "): ", own "Promise", .text "<", own "SdkResponse", .text "<", own "T", .text ">> \x7b"]]
  | .javascript =>
    [[]] ++
    Code.verbatim (comment [
      "@param \x7bstring\x7d method",
      "@param \x7bstring\x7d uri",
      "@param \x7bRecord<string, unknown> | undefined\x7d path",
      "@param \x7bRecord<string, unknown> | undefined\x7d query",
      "@param \x7bunknown\x7d body",
      "@param \x7bimport(\"axios\").AxiosRequestConfig\x7d config",
      "@returns \x7bPromise<\x7b success: boolean, status: number, data: unknown, error: unknown \x7d>\x7d"]) ++
    [[.text "export async function ", binds "request", .enter, .text "(", binds "method", .text ", ", binds "uri",
      .text ", ", binds "path", .text ", ", binds "query", .text ", ", binds "body", .text ", ", binds "config",
      .text " = \x7b\x7d) \x7b"]]

def sender (language : Language) (authMode : AuthMode) : Code RequestName :=
  requestHead language ++
    Code.indent
      (Code.block [.leave, .text " catch (", .enter, binds "error", .text ") \x7b"] [.text "try", .enter]
        (headerDeclaration language ++ authorization authMode ++ sending language) ++
      Code.indent (failing language) ++
      [[.text "\x7d", .leave]]) ++
    [[.text "\x7d", .leave]]

end RequestCode

/-- The code that sends requests, behind its opening and with the value of the base URL. -/
def requestCode (language : Language) (authMode : AuthMode) (opening : Lines) (value : String) : Code RequestName :=
  Code.verbatim opening ++ RequestCode.declarations language value ++ RequestCode.settings language ++
    RequestCode.urlBuilder language ++ RequestCode.sender language authMode

section Text

variable (config : Config)

attribute [local simp] spelledLine Token.spelled Token.binds Token.own block

theorem lines_typedFunction (language : Language) (types : List String) (typed plain : List (Token RequestName))
    (body : Code RequestName) :
    (RequestCode.typedFunction language types typed plain body).lines (spellingOf config) =
      typedFunction language types (spelledLine (spellingOf config) typed)
        (spelledLine (spellingOf config) plain) (body.lines (spellingOf config)) := by
  cases language <;> simp [RequestCode.typedFunction, typedFunction]

theorem lines_baseUrlDeclaration (language : Language) (model : Model) :
    (RequestCode.baseUrlDeclaration language (literal model.basePath)).lines (spellingOf config) =
      baseUrlDeclaration language config model := by
  cases language <;> simp [RequestCode.baseUrlDeclaration, baseUrlDeclaration, String.append_assoc]

theorem lines_declarations (language : Language) (model : Model) :
    (RequestCode.declarations language (literal model.basePath)).lines (spellingOf config) =
      declarations language config model := by
  cases language <;>
    simp [RequestCode.declarations, declarations, lines_baseUrlDeclaration, tokenType, providedType]

theorem lines_settings (language : Language) :
    (RequestCode.settings language).lines (spellingOf config) = settings language config := by
  simp [RequestCode.settings, settings, lines_typedFunction, tokenType, String.append_assoc]

theorem lines_urlBuilder (language : Language) :
    (RequestCode.urlBuilder language).lines (spellingOf config) = urlBuilder language config := by
  cases language <;>
    simp [RequestCode.urlBuilder, RequestCode.placeholderValue, urlBuilder, lines_typedFunction, String.append_assoc]

theorem lines_authorization :
    (RequestCode.authorization config.authMode).lines (spellingOf config) = authorization config := by
  rw [authorization]
  cases config.authMode <;> simp [RequestCode.authorization, ← String.append_assoc]

theorem lines_sender (language : Language) :
    (RequestCode.sender language config.authMode).lines (spellingOf config) = sender language config := by
  cases language <;>
    simp [RequestCode.sender, RequestCode.requestHead, RequestCode.headerDeclaration, RequestCode.sending,
      RequestCode.failing, sender, requestHead, headerDeclaration, sending, failing, lines_authorization]

theorem lines_requestCode (language : Language) (model : Model) :
    (requestCode language config.authMode (opening config) (literal model.basePath)).lines (spellingOf config) =
      requests language config model := by
  simp [requestCode, requests, lines_declarations, lines_settings, lines_urlBuilder, lines_sender]

end Text

/-! ### Which names have to be kept -/

/-- The uses of names do not depend on the opening, nor on the value of the base URL. -/
theorem uses_requestCode (language : Language) (authMode : AuthMode) (opening : Lines) (value : String) :
    (requestCode language authMode opening value).uses = (requestCode language authMode [] "").uses := by
  have without : (requestCode language authMode opening value).uses = (requestCode language authMode [] value).uses := by
    simp only [requestCode, List.append_assoc, Code.uses]
    exact usesFrom_verbatim_append _ _ _ _
  rw [without]
  cases language <;> cases authMode <;> rfl

/-- The names that a chosen one would clash with although the checks accept it: imported types, and what is not declared
in the code but referred to. A type parameter is in the way of a call only. -/
def unkeptNames (language : Language) (authMode : AuthMode) (choice : Choice) : List String :=
  let shared := match language with
    | .typescript => ["AxiosRequestConfig", "Error", "Omit", "Promise", "RawAxiosRequestHeaders", "Record", "String",
        "encodeURIComponent", "undefined"]
    | .javascript => ["Error", "String", "encodeURIComponent", "undefined"]
  if choice = .token ∧ language = .typescript ∧ authMode = .bearer then "T" :: shared else shared

/-- If both names of a pair are spelled alike then one is chosen, and its spelling is not kept. -/
def isSettled (language : Language) (authMode : AuthMode) : RequestName × RequestName → Bool
  | (.own spelling, .own spelling') => spelling ≠ spelling'
  | (.own spelling, .given choice) | (.given choice, .own spelling) =>
    !Config.isUsableName spelling || (unkeptNames language authMode choice).contains spelling
  | (.given choice, .given choice') => choice ≠ choice'

theorem isSettled_clashes (language : Language) (authMode : AuthMode) :
    (clashes (requestCode language authMode [] "").uses).all (isSettled language authMode) := by
  cases language <;> cases authMode <;> decide +kernel

/-- Each of these names does clash. -/
theorem mem_clashes_of_unkept (language : Language) (authMode : AuthMode) :
    ∀ choice ∈ Choice.all, ∀ spelling ∈ unkeptNames language authMode choice,
      (.own spelling, .given choice) ∈ clashes (requestCode language authMode [] "").uses ∨
      (.given choice, .own spelling) ∈ clashes (requestCode language authMode [] "").uses := by
  cases language <;> cases authMode <;> decide +kernel

theorem nodup_declaredIn_requestCode (language : Language) (authMode : AuthMode) :
    (declaredIn (requestCode language authMode [] "").uses).Nodup := by
  cases language <;> cases authMode <;> decide +kernel

section Hygiene

variable {language : Language} {config : Config} {name name' : RequestName}

theorem Choice.isUsableName_spelled (pass : config.NamesPass) (choice : Choice) :
    Config.isUsableName (choice.spelled config) := by
  cases choice with
  | baseUrl => exact pass.baseUrlVar
  | token => exact pass.tokenFn

theorem Choice.spelled_injective (pass : config.NamesPass) : Function.Injective (Choice.spelled config) := by
  intro choice choice' same
  cases choice <;> cases choice'
  · rfl
  · exact absurd same pass.distinct
  · exact absurd same.symm pass.distinct
  · rfl

/-- The pairs that have to be spelled differently are, unless a chosen name is not kept. -/
theorem spelled_ne_of_isSettled (pass : config.NamesPass)
    (kept : ∀ choice, Choice.spelled config choice ∉ unkeptNames language config.authMode choice)
    (settled : isSettled language config.authMode (name, name')) : spellingOf config name ≠ spellingOf config name' := by
  have free : ∀ choice, (!Config.isUsableName (Choice.spelled config choice) ||
      (unkeptNames language config.authMode choice).contains (Choice.spelled config choice)) = false := by
    intro choice
    simp [Choice.isUsableName_spelled pass, kept]
  intro same
  rcases SourceName.eq_or_exists_given (Choice.spelled_injective pass) same with rfl | ⟨choice, ⟨rfl, rfl⟩ | ⟨rfl, rfl⟩⟩
  · cases name <;> simp [isSettled] at settled
  · exact Bool.false_ne_true ((free choice).symm.trans settled)
  · exact Bool.false_ne_true ((free choice).symm.trans settled)

theorem hygienic_requestCode_iff (pass : config.NamesPass) (opening : Lines) (value : String) :
    Hygienic (requestCode language config.authMode opening value) (spellingOf config) ↔
      ∀ choice, Choice.spelled config choice ∉ unkeptNames language config.authMode choice := by
  have once : (declaredIn (requestCode language config.authMode opening value).uses).Nodup := by
    rw [uses_requestCode]
    exact nodup_declaredIn_requestCode language config.authMode
  rw [hygienic_iff once, uses_requestCode]
  constructor
  · intro apart choice listed
    have member : choice ∈ Choice.all := by cases choice <;> decide
    rcases mem_clashes_of_unkept language config.authMode choice member _ listed with clash | clash
    · exact apart _ clash rfl
    · exact apart _ clash rfl
  · intro kept pair clash
    exact spelled_ne_of_isSettled pass kept (List.all_eq_true.mp (isSettled_clashes language config.authMode) pair clash)

end Hygiene

def configuredCode (language : Language) (config : Config) (model : Model) : Code RequestName :=
  requestCode language config.authMode (opening config) (literal model.basePath)

/-- The code that sends requests, with the names that an accepted configuration chooses: no scope declares a name twice
and no reference is captured, unless a chosen name is one of those that are not kept from the configuration. -/
theorem requests_hygienic_iff (language : Language) {config : Config} {settled : Language × String}
    (accepted : config.check = .ok settled) (model : Model) :
    ((configuredCode language config model).lines (spellingOf config)).toText =
      render language config model .requests ∧
    config.baseUrlVar ≠ config.tokenFn ∧
    (Hygienic (configuredCode language config model) (spellingOf config) ↔
      config.baseUrlVar ∉ unkeptNames language config.authMode .baseUrl ∧
      config.tokenFn ∉ unkeptNames language config.authMode .token) := by
  have pass := Config.namesPass_of_check accepted
  refine ⟨congrArg Lines.toText (lines_requestCode config language model), pass.distinct,
    (hygienic_requestCode_iff pass _ _).trans ⟨fun kept => ⟨kept .baseUrl, kept .token⟩, ?_⟩⟩
  rintro ⟨baseUrl, token⟩ (_ | _)
  · exact baseUrl
  · exact token

/-- A configuration for JavaScript that names the base URL like a type of TypeScript. -/
def promisingConfig : Config :=
  { Config.default with input := some "api.json", lang := "js", baseUrlVar := "Promise" }

theorem requests_hygienic_promise :
    promisingConfig.check = .ok (.javascript, "api.json") ∧
    Hygienic (configuredCode .javascript promisingConfig (Model.ofDocument .crowded))
      (spellingOf promisingConfig) := by
  have accepted : promisingConfig.check = .ok (.javascript, "api.json") := by decide +kernel
  exact ⟨accepted, (requests_hygienic_iff .javascript accepted (Model.ofDocument .crowded)).2.2.mpr (by decide +kernel)⟩

/-- A configuration that names the base URL like an imported type, and the function for the credential like one that the
code calls. -/
def clashingConfig : Config :=
  { Config.default with input := some "api.json", baseUrlVar := "AxiosRequestConfig", tokenFn := "String" }

/-- The name of the type then stands for the base URL too, and filling a placeholder asks for the credential. -/
theorem requests_capture_string :
    clashingConfig.check = .ok (.typescript, "api.json") ∧
    ¬(declaredIn ((configuredCode .typescript clashingConfig (Model.ofDocument .crowded)).map
      (spellingOf clashingConfig)).uses).Nodup ∧
    links ((configuredCode .typescript clashingConfig (Model.ofDocument .crowded)).map
      (spellingOf clashingConfig)).uses ≠
      links (configuredCode .typescript clashingConfig (Model.ofDocument .crowded)).uses := by
  rw [Code.uses_map, configuredCode, uses_requestCode]
  exact ⟨by decide +kernel, by decide +kernel, by decide +kernel⟩

end SwaggerSdk.Sdk
