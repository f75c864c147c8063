import SwaggerSdk.Datum
import SwaggerSdk.Json.Quoted

/-!
# Writing JSON

Two layouts of the same data: compact, without any gap, and indented, with an item or a field on each line.
-/

namespace SwaggerSdk.Json

mutual

def compactChars : Datum → List Char
  | .flag value => Datum.flagChars value
  | .text value => quoteChars value.toList
  | .list items => '[' :: (compactItems items ++ [']'])
  | .record fields => '\x7b' :: (compactFields fields ++ ['\x7d'])

def compactItems : List Datum → List Char
  | [] => []
  | [item] => compactChars item
  | item :: items => compactChars item ++ (',' :: compactItems items)

def compactFields : List (String × Datum) → List Char
  | [] => []
  | [(name, value)] => quoteChars name.toList ++ (':' :: compactChars value)
  | (name, value) :: fields =>
    quoteChars name.toList ++ (':' :: compactChars value) ++ (',' :: compactFields fields)

end

def lineStart (depth : Nat) : List Char := '\n' :: List.replicate (2 * depth) ' '

mutual

def indentedChars (depth : Nat) : Datum → List Char
  | .flag value => Datum.flagChars value
  | .text value => quoteChars value.toList
  | .list [] => ['[', ']']
  | .list (item :: items) =>
    '[' :: (indentedItems (depth + 1) (item :: items) ++ lineStart depth ++ [']'])
  | .record [] => ['\x7b', '\x7d']
  | .record (field :: fields) =>
    '\x7b' :: (indentedFields (depth + 1) (field :: fields) ++ lineStart depth ++ ['\x7d'])

def indentedItems (depth : Nat) : List Datum → List Char
  | [] => []
  | [item] => lineStart depth ++ indentedChars depth item
  | item :: items => lineStart depth ++ indentedChars depth item ++ (',' :: indentedItems depth items)

def indentedFields (depth : Nat) : List (String × Datum) → List Char
  | [] => []
  | [(name, value)] => lineStart depth ++ quoteChars name.toList ++ [':', ' '] ++ indentedChars depth value
  | (name, value) :: fields =>
    lineStart depth ++ quoteChars name.toList ++ [':', ' '] ++ indentedChars depth value ++
      (',' :: indentedFields depth fields)

end

def write (datum : Datum) : String := String.ofList (compactChars datum)

def writeIndented (datum : Datum) : String := String.ofList (indentedChars 0 datum)

end SwaggerSdk.Json
