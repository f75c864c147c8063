import SwaggerSdk.Naming.Identifier

/-!
# The words of a name, and camel case

A name is cut at blanks, dashes, underscores, and where an upper-case letter follows a lower-case one, so
a run of capitals stays one word. Camel case writes the words without separators, each but the first with
a capital.
-/

namespace SwaggerSdk.Naming

def spaced (c : Char) : Char := if c == '-' || c == '_' then ' ' else c

/-- Opens a gap wherever the case rises, given the character before the text. -/
def openGaps (before : Option Char) : List Char → List Char
  | [] => []
  | c :: s =>
    let rises := before.any Text.isLowercase && Text.isUppercase (spaced c)
    let tail := spaced c :: openGaps (some (spaced c)) s
    if rises then ' ' :: tail else tail

def words (s : List Char) : List (List Char) :=
  ((Text.fields (openGaps none s)).map (·.filter Text.isWordChar)).filter (!·.isEmpty)

def capitalize : List Char → List Char
  | [] => []
  | c :: s => c.toUpper :: s

def joinWords : List (List Char) → List Char
  | [] => []
  | first :: others =>
    first.map Char.toLower ++ (others.map fun word => capitalize (word.map Char.toLower)).flatten

def leadWithLetter (s : List Char) : List Char :=
  if s.head?.any Char.isDigit then fallback ++ s else s

def camelCaseChars (s : List Char) : List Char := leadWithLetter (joinWords (words s))

def camelCase (name : String) : String := String.ofList (camelCaseChars name.toList)

def splitWords (name : String) : List String := (words name.toList).map String.ofList

end SwaggerSdk.Naming
