import SwaggerSdk.Datum
import SwaggerSdk.Number.Binary64
import SwaggerSdk.Text.Characters
import SwaggerSdk.Yaml.Node

/-!
# What plain scalars mean

Null, flags, integers and numbers by their spelling. Everything else is text, and so are digits behind a
leading zero.
-/

namespace SwaggerSdk.Yaml

def isNull (text : String) : Bool := ["null", "Null", "NULL", "~"].contains text

def flag? (text : String) : Option Bool :=
  if ["true", "True", "TRUE"].contains text then some true
  else if ["false", "False", "FALSE"].contains text then some false
  else none

def digits? (base : Nat) (digits : List Char) : Option Nat :=
  if digits.isEmpty then none
  else digits.foldl (fun value? c => do
    let value ← value?
    let digit ← Text.hexDigit? c
    if digit < base then some (base * value + digit) else none) (some 0)

def magnitude? : List Char → Option Nat
  | '0' :: 'x' :: digits => digits? 16 digits
  | '0' :: 'o' :: digits => digits? 8 digits
  | '0' :: 'b' :: digits => digits? 2 digits
  | digits => digits? 10 digits

def signed : List Char → Bool × List Char
  | '-' :: s => (true, s)
  | '+' :: s => (false, s)
  | s => (false, s)

def isZeroPadded (s : List Char) : Bool :=
  match (signed s).2 with
  | '0' :: c :: digits => (c :: digits).all Char.isDigit
  | _ => false

/-- The integer that a text spells: whether it has a minus sign, and its magnitude. -/
def integer? (s : List Char) : Option (Bool × Nat) :=
  if isZeroPadded s then none
  else
    let (isNegative, s) := signed s
    (magnitude? s).map (isNegative, ·)

structure Decimals where
  whole : List Char
  fraction : List Char
  exponent : Int

def exponent? : List Char → Option Int
  | [] => some 0
  | c :: s =>
    if c == 'e' || c == 'E' then
      let (isNegative, digits) := signed s
      (digits? 10 digits).map fun value => if isNegative then -(value : Int) else value
    else none

/-- Reads a decimal without a sign; it has at least one digit before or behind the point. -/
def decimals? (s : List Char) : Option Decimals :=
  let whole := s.takeWhile Char.isDigit
  let rest := s.dropWhile Char.isDigit
  let fraction := if rest.head? == some '.' then rest.tail.takeWhile Char.isDigit else []
  let rest := if rest.head? == some '.' then rest.tail.dropWhile Char.isDigit else rest
  if whole.isEmpty && fraction.isEmpty then none
  else (exponent? rest).map (⟨whole, fraction, ·⟩)

/-- Whether a decimal is below what double precision holds. -/
def Decimals.isFinite (decimals : Decimals) : Bool :=
  let digits := (decimals.whole ++ decimals.fraction).dropWhile (· == '0')
  let places := (digits.length : Int) - decimals.fraction.length + decimals.exponent
  -- the digits count only where the size does not settle the matter
  if digits.isEmpty || places < 300 then true
  else if 310 < places then false
  else
    let value := (digits? 10 digits).getD 0
    let shift := decimals.exponent - decimals.fraction.length
    (Binary64.ofQuotient (value * Nat.pow 10 shift.toNat) (Nat.pow 10 (-shift).toNat)).isFinite

def isFloat (s : List Char) : Bool :=
  let text := String.ofList s
  if [".inf", ".Inf", ".INF", "+.inf", "+.Inf", "+.INF", "-.inf", "-.Inf", "-.INF", ".nan", ".NaN",
      ".NAN"].contains text then true
  else (decimals? (signed s).2).any (·.isFinite)

/-- The value of an integer that a text spells, if it is one of 64 bits. -/
def integerValue? (s : List Char) : Option (Option Value) :=
  (integer? s).bind fun (isNegative, magnitude) =>
    if isNegative then
      -- what has more than 64 bits is refused, and what has more than 128 is no integer
      if magnitude ≤ Nat.pow 2 63 then some (some .number)
      else if magnitude ≤ Nat.pow 2 127 then some none
      else none
    else if magnitude < Nat.pow 2 64 then some (some (.unsigned magnitude))
    else if magnitude < Nat.pow 2 128 then some none
    else none

def plainValue? (text : String) : Option Value :=
  let s := text.toList
  if text.isEmpty || isNull text then some .null
  else
    match flag? text, integerValue? s with
    | some flag, _ => some (.flag flag)
    | none, some value? => value?
    | none, none => some (if !isZeroPadded s && isFloat s then .number else .text text)

inductive CoreType where
  | null | flag | integer | float
  deriving DecidableEq, Repr, Inhabited

def coreType? (tag : String) : Option CoreType :=
  if tag == "tag:yaml.org,2002:null" then some .null
  else if tag == "tag:yaml.org,2002:bool" then some .flag
  else if tag == "tag:yaml.org,2002:int" then some .integer
  else if tag == "tag:yaml.org,2002:float" then some .float
  else none

def taggedValue? (type : CoreType) (text : String) : Option Value :=
  match type with
  | .null => if isNull text then some .null else none
  | .flag => (flag? text).map .flag
  | .integer => (integerValue? text.toList).join
  | .float => if isFloat text.toList then some .number else none

def ownTag? (tag : Option String) : Option String :=
  tag.bind fun tag =>
    match tag.toList with
    | '!' :: [] => some "!"
    | '!' :: name => some (String.ofList name)
    | _ => none

def scalarValue? (tag : Option String) (text : String) (style : Style) : Option Value :=
  -- own tags are not understood
  if (ownTag? tag).isSome then none
  else
    match tag.bind coreType? with
    | some type => taggedValue? type text
    | none => if tag.isNone && style == .plain then plainValue? text else some (.text text)

end SwaggerSdk.Yaml
