import SwaggerSdk.Text.Blank
import SwaggerSdk.Text.Characters

/-!
# Identifiers

Names that a JavaScript or TypeScript module can declare: their ASCII shape, the words that the two
languages reserve, and the turning of any text into identifier characters.
-/

namespace SwaggerSdk.Naming

def reservedWords : List String := [
  "arguments", "await", "break", "case", "catch", "class", "const", "continue", "debugger", "default",
  "delete", "do", "else", "enum", "eval", "export", "extends", "false", "finally", "for", "function",
  "if", "implements", "import", "in", "instanceof", "interface", "let", "new", "null", "package",
  "private", "protected", "public", "return", "static", "super", "switch", "this", "throw", "true",
  "try", "typeof", "var", "void", "while", "with", "yield"]

def isReserved (name : String) : Bool := reservedWords.contains name

def isIdentifierChars : List Char → Bool
  | [] => false
  | c :: s => (c.isAlpha || c == '_') && s.all Text.isWordChar

/-- A text with the shape of an identifier; it may still be reserved. -/
def isIdentifier (name : String) : Bool := isIdentifierChars name.toList

/-- What stands in where a text leaves nothing that could be a name. -/
def fallback : List Char := ['o', 'p']

def sanitizeChars (s : List Char) : List Char :=
  let kept := (Text.trim s).map fun c => if Text.isWordChar c then c else '_'
  let stripped := Text.strip (· == '_') kept
  if stripped.isEmpty then fallback else stripped

def sanitize (name : String) : String := String.ofList (sanitizeChars name.toList)

end SwaggerSdk.Naming
