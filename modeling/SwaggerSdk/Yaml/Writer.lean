import SwaggerSdk.Datum
import SwaggerSdk.Yaml.Scalar

/-!
# Writing YAML

Data in block style: a field or an item on each line, where the items of a list that is the value of a field
stand below the name of that field. Only what is empty is written in brackets.
-/

namespace SwaggerSdk.Yaml

mutual

def fieldValueChars (indent : Nat) : Datum → List Char
  | .flag value => ' ' :: (Datum.flagChars value ++ ['\n'])
  | .text value => ' ' :: scalarChars (indent + indentWidth) value
  | .list [] => [' ', '[', ']', '\n']
  | .list (item :: items) => '\n' :: (indentation indent ++ itemsChars indent (item :: items))
  | .record [] => [' ', '\x7b', '\x7d', '\n']
  | .record (field :: fields) =>
    let inner := indent + indentWidth
    '\n' :: (indentation inner ++ fieldsChars inner (field :: fields))

/-- An item of a list that is indented that much, behind its mark; a collection begins on the same line. -/
def itemValueChars (indent : Nat) : Datum → List Char
  | .flag value => Datum.flagChars value ++ ['\n']
  | .text value => scalarChars (indent + indentWidth) value
  | .list [] => ['[', ']', '\n']
  | .list (item :: items) => itemsChars (indent + indentWidth) (item :: items)
  | .record [] => ['\x7b', '\x7d', '\n']
  | .record (field :: fields) => fieldsChars (indent + indentWidth) (field :: fields)

def itemsChars (indent : Nat) : List Datum → List Char
  | [] => []
  | [item] => '-' :: ' ' :: itemValueChars indent item
  | item :: items =>
    '-' :: ' ' :: (itemValueChars indent item ++ indentation indent ++ itemsChars indent items)

/-- The fields of a record, which are named with words; the first line is indented already. -/
def fieldsChars (indent : Nat) : List (String × Datum) → List Char
  | [] => []
  | [(name, value)] => name.toList ++ (':' :: fieldValueChars indent value)
  | (name, value) :: fields =>
    name.toList ++ (':' :: fieldValueChars indent value) ++ indentation indent ++ fieldsChars indent fields

end

def documentChars : Datum → List Char
  | .flag value => Datum.flagChars value ++ ['\n']
  | .text value => scalarChars indentWidth value
  | .list items => if items.isEmpty then ['[', ']', '\n'] else itemsChars 0 items
  | .record fields => if fields.isEmpty then ['\x7b', '\x7d', '\n'] else fieldsChars 0 fields

def write (datum : Datum) : String := String.ofList (documentChars datum)

end SwaggerSdk.Yaml
