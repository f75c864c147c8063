import SwaggerSdk.Config.Load

/-!
# Flags over files over defaults

The three layers of a configuration. A flag wins over the file, and what neither says holds by default.
-/

namespace SwaggerSdk

structure Flags where
  configFile : Option String
  input : Option String
  outputDir : Option String
  lang : Option String
  sdkName : Option String
  baseUrlVar : Option String
  authMode : Option AuthMode
  tokenFn : Option String
  deriving DecidableEq, Repr, Inhabited

namespace Flags

def empty : Flags := ⟨none, none, none, none, none, none, none, none⟩

def override (flags : Flags) (config : Config) : Config where
  input := flags.input.or config.input
  outputDir := flags.outputDir.getD config.outputDir
  lang := flags.lang.getD config.lang
  sdkName := flags.sdkName.getD config.sdkName
  baseUrlVar := flags.baseUrlVar.getD config.baseUrlVar
  authMode := flags.authMode.getD config.authMode
  tokenFn := flags.tokenFn.getD config.tokenFn

variable {m : Type → Type} [Monad m] (access : FileAccess m) (flags : Flags)

def base : m (Except ConfigError Config) := do
  match flags.configFile with
  | some path => Config.loadNamed access path
  | none => return (← Config.load access Config.fileName).map (·.getD .default)

def resolve : m (Except ConfigError Config) := do
  return (← flags.base access).map flags.override

end Flags

end SwaggerSdk
