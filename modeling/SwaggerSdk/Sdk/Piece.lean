import SwaggerSdk.Config
import SwaggerSdk.Sdk.Source

/-!
# The pieces of an SDK

An SDK consists of five files, which are rendered and written in one order. Every source file begins with a comment
that names the SDK, and the files refer to each other as modules.
-/

namespace SwaggerSdk.Sdk

inductive Piece where
  | manifest
  | routes
  | requests
  | functions
  | index
  deriving DecidableEq, Repr, Inhabited

namespace Piece

def all : List Piece := [manifest, routes, requests, functions, index]

def name : Piece → String
  | manifest => "package"
  | routes => "routes"
  | requests => "requests"
  | functions => "sdk"
  | index => "index"

def ofName? (name : String) : Option Piece := all.find? (·.name == name)

def fileName (language : Language) : Piece → String
  | manifest => "package.json"
  | piece => piece.name ++ "." ++ language.fileExtension

def templateId (language : Language) (piece : Piece) : String :=
  language.fileExtension ++ "/" ++ piece.fileName language ++ ".j2"

theorem mem_all (piece : Piece) : piece ∈ all := by cases piece <;> decide

end Piece

def banner (config : Config) : String :=
  "// Code generated by sdkgen for " ++ Text.oneLine config.sdkName ++ ". DO NOT EDIT."

def opening (config : Config) : Lines := [banner config, ""]

def moduleName (language : Language) (name : String) : String :=
  match language with
  | .typescript => literal ("./" ++ name)
  | .javascript => literal ("./" ++ name ++ ".js")

end SwaggerSdk.Sdk
