import SwaggerSdk.Json.Number
import SwaggerSdk.Json.Quoted
import SwaggerSdk.Text.Characters

/-!
# Why a text cannot be read

A text either is no JSON, up to the point where the reading stops, or has another shape than what is
wanted. The wording of the second kind is fixed here.
-/

namespace SwaggerSdk.Json

/-- What stands where something else is wanted. -/
inductive Found where
  | null
  | flag (value : Bool)
  | number (value : Number)
  | text (value : String)
  | sequence
  | map
  deriving DecidableEq, Repr, Inhabited

/-- How the shape of a value differs from the one that is wanted. -/
inductive Misfit where
  | unexpected (found : Found) (wanted : String)
  | tooShort (index : Nat) (record : String) (fieldCount : Nat)
  | repeatedField (name : String)
  | noEntry
  deriving DecidableEq, Repr, Inhabited

inductive ReadError where
  | early
  | malformed
  | misfit (cause : Misfit)
  deriving DecidableEq, Repr, Inhabited

namespace Found

def describe : Found → String
  | null => "null"
  | flag value => "boolean `" ++ (if value then "true" else "false") ++ "`"
  | number value => (if value.isFloat then "floating point `" else "integer `") ++ value.text ++ "`"
  | text value => "string " ++ Text.shown value
  | sequence => "sequence"
  | map => "map"

end Found

namespace Misfit

def message : Misfit → String
  | unexpected found wanted => "invalid type: " ++ found.describe ++ ", expected " ++ wanted
  | tooShort index record fieldCount =>
    "invalid length " ++ toString index ++ ", expected struct " ++ record ++ " with " ++
      toString fieldCount ++ " elements"
  | repeatedField name => "duplicate field `" ++ name ++ "`"
  | noEntry => "data did not match any variant of untagged enum ParameterOrRef"

end Misfit

/-- A fault in a value that is wanted. -/
def Fault.whenUsed : Fault → ReadError
  | early | cutNumeral => .early
  | malformed => .malformed

/-- A fault in a value that is passed over. -/
def Fault.whenSkipped : Fault → ReadError
  | early => .early
  | malformed | cutNumeral => .malformed

def Lexeme.read (lexeme : Lexeme) : Except ReadError String :=
  lexeme.decode.mapError Fault.whenUsed

def Numeral.read (numeral : Numeral) : Except ReadError Number :=
  match numeral.value? with
  | some value => .ok value
  | none => .error .malformed

/-- Passes over a value that nobody uses; it only has to be complete. -/
def Tree.skip (tree : Tree) : Except ReadError Unit :=
  match tree.fault? with
  | none => .ok ()
  | some fault => .error fault.whenSkipped

def Tree.found : Tree → Except ReadError Found
  | null => .ok .null
  | flag value => .ok (.flag value)
  | number numeral => numeral.read.map .number
  | text lexeme => lexeme.read.map .text
  | array _ _ => .ok .sequence
  | object _ _ => .ok .map
  | broken fault => .error fault.whenUsed

def Tree.refuse {α : Type} (tree : Tree) (wanted : String) : Except ReadError α := do
  let found ← tree.found
  throw (.misfit (.unexpected found wanted))

end SwaggerSdk.Json
