import SwaggerSdk.Config.Flags
import SwaggerSdk.Document.Load

/-!
# Requests

What a run of the program is asked for.
-/

namespace SwaggerSdk

inductive Shell where
  | bash | elvish | fish | powershell | zsh
  deriving DecidableEq, Repr, Inhabited

namespace Shell

def name : Shell → String
  | bash => "bash"
  | elvish => "elvish"
  | fish => "fish"
  | powershell => "powershell"
  | zsh => "zsh"

def all : List Shell := [bash, elvish, fish, powershell, zsh]

def ofName? (name : String) : Option Shell := all.find? (·.name == name)

end Shell

def TextFormat.ofName? (name : String) : Option TextFormat :=
  if name = "yaml" then some yaml else if name = "json" then some json else none

/-- The commands that have a name. A run without any of them generates an SDK. -/
inductive Command where
  | validate | inspect | init | completions | help
  deriving DecidableEq, Repr, Inhabited

namespace Command

def name : Command → String
  | validate => "validate"
  | inspect => "inspect"
  | init => "init"
  | completions => "completions"
  | help => "help"

def all : List Command := [validate, inspect, init, completions, help]

def ofName? (name : String) : Option Command := all.find? (·.name == name)

end Command

inductive Request where
  | generate (flags : Flags)
  | validate (input : String)
  | inspect (input : String) (format : TextFormat)
  | init (isForced : Bool)
  | completions (shell : Shell)
  deriving DecidableEq, Repr, Inhabited

/-- Why arguments are no request: they ask about the program, or they are wrong. -/
inductive Stop where
  | help (command : Option Command)
  | version
  | misuse
  deriving DecidableEq, Repr, Inhabited

end SwaggerSdk
