/-!
# Data of any format

What is read from a data format before it is known what is wanted, as far as the formats tell values apart, and what
the library writes: texts, flags, lists and records with their fields in order.
-/

namespace SwaggerSdk

/-- The content of a value that has been read. -/
inductive Value where
  | null
  | flag (value : Bool)
  | unsigned (value : Nat)
  | number
  | text (value : String)
  | list (items : List Value)
  | map (members : List (Value × Value))
  deriving Repr, Inhabited

/-- What is to be written. -/
inductive Datum where
  | flag (value : Bool)
  | text (value : String)
  | list (items : List Datum)
  | record (fields : List (String × Datum))
  deriving Repr, Inhabited

namespace Datum

def flagChars (value : Bool) : List Char :=
  if value then ['t', 'r', 'u', 'e'] else ['f', 'a', 'l', 's', 'e']

def present (name : String) : Option Datum → List (String × Datum)
  | some value => [(name, value)]
  | none => []

def presentText (name : String) (value : Option String) : List (String × Datum) :=
  present name (value.map text)

def presentList (name : String) (items : List Datum) : List (String × Datum) :=
  if items.isEmpty then [] else [(name, list items)]

def presentRecord (name : String) (fields : List (String × Datum)) : List (String × Datum) :=
  if fields.isEmpty then [] else [(name, record fields)]

end Datum

end SwaggerSdk
