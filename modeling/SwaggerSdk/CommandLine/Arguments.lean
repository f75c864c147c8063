import SwaggerSdk.CommandLine.Grammar

/-!
# From arguments to a request

The options of each command. The name of a command comes first; where none is named, the options are those
of generating.
-/

namespace SwaggerSdk.CommandLine

def noWord {ρ : Type} (_ : String) (_ : ρ) : Except Stop ρ := .error .misuse

def generateGrammar : Grammar Flags where
  word := noWord
  choices := [
    .help none,
    ⟨"version", some 'V', .stop .version⟩,
    .valued "input" none Choice.path? (·.input) fun value flags => { flags with input := some value },
    .valued "out" none Choice.path? (·.outputDir) fun value flags => { flags with outputDir := some value },
    .valued "lang" none some (·.lang) fun value flags => { flags with lang := some value },
    .valued "name" none some (·.sdkName) fun value flags => { flags with sdkName := some value },
    .valued "baseUrlVar" none some (·.baseUrlVar) fun value flags =>
      { flags with baseUrlVar := some value },
    .valued "tokenFn" none some (·.tokenFn) fun value flags => { flags with tokenFn := some value },
    .valued "auth" none AuthMode.ofTyped? (·.authMode) fun value flags =>
      { flags with authMode := some value },
    .valued "config" none Choice.path? (·.configFile) fun value flags =>
      { flags with configFile := some value }]

structure Reading where
  input : Option String
  format : Option TextFormat

def inputChoice : Choice Reading :=
  .valued "input" (some 'i') Choice.path? (·.input) fun value reading => { reading with input := some value }

def validateGrammar : Grammar Reading := ⟨[.help (some .validate), inputChoice], noWord⟩

def inspectGrammar : Grammar Reading where
  word := noWord
  choices := [
    .help (some .inspect),
    inputChoice,
    .valued "format" none TextFormat.ofName? (·.format) fun value reading =>
      { reading with format := some value }]

def initGrammar : Grammar Bool where
  word := noWord
  choices := [
    .help (some .init),
    ⟨"force", none, .switch fun isForced => if isForced then .error .misuse else .ok true⟩]

def completionsGrammar : Grammar (Option Shell) where
  word name shell? :=
    match Shell.ofName? name, shell? with
    | some shell, none => .ok (some shell)
    | _, _ => .error .misuse
  choices := [.help (some .completions)]

def required {α : Type} : Option α → Except Stop α
  | some value => .ok value
  | none => .error .misuse

def readCommand (command : Command) (arguments : List String) : Except Stop Request :=
  match command with
  | .validate => do
    let reading ← validateGrammar.read ⟨none, none⟩ arguments
    return .validate (← required reading.input)
  | .inspect => do
    let reading ← inspectGrammar.read ⟨none, none⟩ arguments
    return .inspect (← required reading.input) (reading.format.getD .yaml)
  | .init => return .init (← initGrammar.read false arguments)
  | .completions => do return .completions (← required (← completionsGrammar.read none arguments))
  | .help =>
    match arguments with
    | [] => .error (.help none)
    | [name] => .error (if (Command.ofName? name).isSome then .help (Command.ofName? name) else .misuse)
    | _ => .error .misuse

def read (arguments : List String) : Except Stop Request :=
  match arguments.head?.bind Command.ofName? with
  | some command => readCommand command arguments.tail
  | none => (generateGrammar.read .empty arguments).map .generate

end SwaggerSdk.CommandLine
