import SwaggerSdk.Json.Quoted

/-!
# Source text

Generated code as lines. A block indents its body by two spaces, so the nesting of the code is the nesting
of its description.
-/

namespace SwaggerSdk.Sdk

/-- Lines of code, without the line feeds that end them. -/
abbrev Lines := List String

namespace Lines

def indent (lines : Lines) : Lines := lines.map ("  " ++ ·)

def toText (lines : Lines) : String := String.join (lines.map (· ++ "\n"))

end Lines

/-- A body in braces behind a head; `tail` follows the closing brace. -/
def blockThen (tail head : String) (body : Lines) : Lines :=
  (head ++ " \x7b") :: Lines.indent body ++ ["\x7d" ++ tail]

def block (head : String) (body : Lines) : Lines := blockThen "" head body

def inline (separator : String) (fields : List String) : String :=
  "\x7b " ++ separator.intercalate fields ++ " \x7d"

def nameList (names : List String) : String := inline ", " names

def literal (text : String) : String := Json.quote text

def commentLine (text : String) : String := if text.isEmpty then " *" else " * " ++ text

def comment (texts : List String) : Lines := "/**" :: texts.map commentLine ++ [" */"]

end SwaggerSdk.Sdk
