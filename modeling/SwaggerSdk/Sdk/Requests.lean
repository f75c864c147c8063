import SwaggerSdk.Model.Basic
import SwaggerSdk.Sdk.Piece

/-!
# The code that sends requests

The base URL and the credential under the names that the configuration gives them, and one function through
which all requests go. The two languages differ in their types only.
-/

namespace SwaggerSdk.Sdk

def tokenType : String := "string | null | undefined"

def providedType : String := tokenType ++ " | Promise<" ++ tokenType ++ ">"

def baseUrlDeclaration (language : Language) (config : Config) (model : Model) : Lines :=
  let type := match language with
    | .typescript => ": string"
    | .javascript => ""
  ["export let " ++ config.baseUrlVar ++ type ++ " = " ++ literal model.basePath ++ ";"]

def declarations (language : Language) (config : Config) (model : Model) : Lines :=
  match language with
  | .typescript =>
    ["import axios from \"axios\";",
      "import type \x7b AxiosRequestConfig, RawAxiosRequestHeaders \x7d from \"axios\";",
      ""] ++
    baseUrlDeclaration language config model ++
    ["",
      "export type TokenProvider = () => " ++ providedType ++ ";",
      "",
      "let tokenProvider: TokenProvider = () => undefined;",
      "",
      "export type RequestConfig = Omit<AxiosRequestConfig, \"method\" | \"url\" | \"params\" | \"data\">;",
      ""] ++
    block "export interface SdkResponse<T = unknown>" [
      "success: boolean;", "status: number;", "data: T | null;", "error: unknown;"]
  | .javascript =>
    ["import axios from \"axios\";", ""] ++
    baseUrlDeclaration language config model ++
    ["",
      "/** @type \x7b() => (" ++ providedType ++ ")\x7d */",
      "let tokenProvider = () => undefined;"]

def typedFunction (language : Language) (types : List String) (typed plain : String) (body : Lines) :
    Lines :=
  match language with
  | .typescript => "" :: block typed body
  | .javascript => "" :: comment types ++ block plain body

def settings (language : Language) (config : Config) : Lines :=
  typedFunction language ["@param \x7bstring\x7d url"]
    "export function setBaseUrl(url: string): void"
    "export function setBaseUrl(url)"
    [config.baseUrlVar ++ " = url;"] ++
  typedFunction language ["@param \x7b() => (" ++ providedType ++ ")\x7d provider"]
    "export function setTokenProvider(provider: TokenProvider): void"
    "export function setTokenProvider(provider)"
    ["tokenProvider = provider;"] ++
  typedFunction language ["@returns \x7bPromise<" ++ tokenType ++ ">\x7d"]
    ("export async function " ++ config.tokenFn ++ "(): Promise<" ++ tokenType ++ ">")
    ("export async function " ++ config.tokenFn ++ "()")
    ["return tokenProvider();"]

def urlBuilder (language : Language) (config : Config) : Lines :=
  let arguments := match language with
    | .typescript => "(_match: string, key: string)"
    | .javascript => "(_match, key)"
  typedFunction language [
      "@param \x7bstring\x7d uri",
      "@param \x7bRecord<string, unknown> | undefined\x7d path",
      "@returns \x7bstring\x7d"]
    "export function buildUrl(uri: string, path?: Record<string, unknown>): string"
    "export function buildUrl(uri, path)"
    (blockThen ");" ("const resolved = uri.replace(/\\\x7b([^\x7d]+)\\\x7d/g, " ++ arguments ++ " =>")
      (["const value = path?.[key];"] ++
        block "if (value === undefined || value === null)"
          ["throw new Error(`missing path parameter \"$\x7bkey\x7d\" for $\x7buri\x7d`);"] ++
        ["return encodeURIComponent(String(value));"]) ++
      ["return " ++ config.baseUrlVar ++ ".replace(/\\/+$/, \"\") + resolved;"])

def authorization (config : Config) : Lines :=
  match config.authMode with
  | .anonymous => []
  | .bearer =>
    ["const token = await " ++ config.tokenFn ++ "();"] ++
    block "if (token)" ["headers.Authorization = `Bearer $\x7btoken\x7d`;"]

def headerDeclaration : Language → Lines
  | .typescript => blockThen ";" "const headers: RawAxiosRequestHeaders ="
      ["...(config.headers as RawAxiosRequestHeaders | undefined),"]
  | .javascript => ["const headers = \x7b ...config.headers \x7d;"]

def sending (language : Language) : Lines :=
  let call := match language with
    | .typescript => "axios.request<T>("
    | .javascript => "axios.request("
  ["const response = await " ++ call ++ "\x7b"] ++
  Lines.indent [
    "...config,", "method,", "url: buildUrl(uri, path),", "params: query,", "data: body,", "headers,"] ++
  ["\x7d);",
    "return \x7b success: true, status: response.status, data: response.data, error: null \x7d;"]

def failing (language : Language) : Lines :=
  let data := match language with
    | .typescript => "(error.response?.data as T | undefined)"
    | .javascript => "error.response?.data"
  block "if (axios.isAxiosError(error))"
    (blockThen ";" "return" [
      "success: false,",
      "status: error.response?.status ?? 0,",
      "data: " ++ data ++ " ?? null,",
      "error,"]) ++
  ["return \x7b success: false, status: 0, data: null, error \x7d;"]

def requestHead : Language → Lines
  | .typescript =>
    ["", "export async function request<T = unknown>("] ++
    Lines.indent [
      "method: string,",
      "uri: string,",
      "path?: Record<string, unknown>,",
      "query?: Record<string, unknown>,",
      "body?: unknown,",
      "config: RequestConfig = \x7b\x7d,"] ++
    ["): Promise<SdkResponse<T>> \x7b"]
  | .javascript =>
    [""] ++
    comment [
      "@param \x7bstring\x7d method",
      "@param \x7bstring\x7d uri",
      "@param \x7bRecord<string, unknown> | undefined\x7d path",
      "@param \x7bRecord<string, unknown> | undefined\x7d query",
      "@param \x7bunknown\x7d body",
      "@param \x7bimport(\"axios\").AxiosRequestConfig\x7d config",
      "@returns \x7bPromise<\x7b success: boolean, status: number, data: unknown, error: unknown \x7d>\x7d"] ++
    ["export async function request(method, uri, path, query, body, config = \x7b\x7d) \x7b"]

def sender (language : Language) (config : Config) : Lines :=
  requestHead language ++
    Lines.indent
      (blockThen " catch (error) \x7b" "try"
        (headerDeclaration language ++ authorization config ++ sending language) ++
      Lines.indent (failing language) ++
      ["\x7d"]) ++
    ["\x7d"]

def requests (language : Language) (config : Config) (model : Model) : Lines :=
  opening config ++ declarations language config model ++ settings language config ++
    urlBuilder language config ++ sender language config

end SwaggerSdk.Sdk
