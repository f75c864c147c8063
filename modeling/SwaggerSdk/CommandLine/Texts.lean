import SwaggerSdk.CommandLine.Run

/-!
# Texts for the terminal

What the program says about itself, the words that shells offer to complete, and with them what surrounds a run.
-/

namespace SwaggerSdk

namespace CommandLine

def synopsis : Option Command → String
  | none =>
    "sdkgen [--input FILE] [--out DIRECTORY] [--lang ts|js] [--name NAME] [--baseUrlVar NAME] " ++
      "[--tokenFn NAME] [--auth none|bearer] [--config FILE]"
  | some .validate => "sdkgen validate --input FILE"
  | some .inspect => "sdkgen inspect --input FILE [--format yaml|json]"
  | some .init => "sdkgen init [--force]"
  | some .completions => "sdkgen completions " ++ "|".intercalate (Shell.all.map Shell.name)
  | some .help => "sdkgen help [COMMAND]"

def purpose : Option Command → String
  | none => "Generates a TypeScript or JavaScript SDK from a Swagger 2.0 document"
  | some .validate => "Says whether a Swagger document can be used"
  | some .inspect => "Shows the model that is built from a Swagger document"
  | some .init => "Writes a configuration file that says what holds by default"
  | some .completions => "Writes completions for a shell"
  | some .help => "Explains the program or a command"

/-- The help on a command; the help on the program lists the commands. -/
def helpText (command : Option Command) : String :=
  let commands := if command.isNone then Command.all.map fun command =>
    "  " ++ synopsis (some command) ++ ": " ++ purpose (some command) else []
  lines ([purpose command, "", "Usage: " ++ synopsis command] ++ commands)

def usageText : String :=
  lines ["error: wrong arguments", "", "Usage: " ++ synopsis none, "For more information, try '--help'."]

def completionsText (shell : Shell) : String :=
  let commands := " ".intercalate (Command.all.map Command.name)
  lines [match shell with
    | .bash => "complete -W '" ++ commands ++ "' sdkgen"
    | .elvish => "set edit:completion:arg-completer[sdkgen] = \x7b|@words| put " ++ commands ++ " \x7d"
    | .fish => "complete -c sdkgen -f -a '" ++ commands ++ "'"
    | .powershell =>
      "Register-ArgumentCompleter -Native -CommandName sdkgen -ScriptBlock \x7b -split '" ++ commands ++ "' \x7d"
    | .zsh => "compdef '_values command " ++ commands ++ "' sdkgen"]

end CommandLine

/-- The surroundings of a run that is started in a directory. -/
def surroundings (workingDirectory : String) : Surroundings where
  workingDirectory := workingDirectory
  wording := ⟨"unexpected end of the text", "not a JSON text", "not a YAML text of the expected shape"⟩
  help := CommandLine.helpText
  usage := CommandLine.usageText
  completions := CommandLine.completionsText

end SwaggerSdk
