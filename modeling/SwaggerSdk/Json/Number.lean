import SwaggerSdk.Json.Tree
import SwaggerSdk.Number.Shortest

/-!
# JSON numbers

The value of a numeral. Integers of 64 bits are exact. Every other number has a significand of 64 bits,
which further digits leave alone, and a power of ten by which it is multiplied or divided with one
rounding each; a number beyond double precision has no value.
-/

namespace SwaggerSdk.Json

inductive Number where
  | unsigned (value : Nat)
  | signed (value : Int)
  | float (negative : Bool) (magnitude : Binary64)
  deriving DecidableEq, Repr, Inhabited

def significandBound : Nat := Nat.pow 2 64

/-- The greatest exponent that can be written; beyond it digits are not read. -/
def exponentBound : Nat := Nat.pow 2 31 - 1

def digitValue (c : Char) : Nat := c.toNat - '0'.toNat

def takeDigits (significand : Nat) : List Char → Nat × Nat
  | [] => (significand, 0)
  | c :: digits =>
    let next := significand * 10 + digitValue c
    if next < significandBound then
      let (result, count) := takeDigits next digits
      (result, count + 1)
    -- the significand is full, and no later digit changes it
    else (significand, 0)

def exponentValue? (digits : List Char) : Option Nat :=
  digits.foldl (fun value? c => value?.bind fun value =>
    let next := value * 10 + digitValue c
    if next ≤ exponentBound then some next else none) (some 0)

def powerOfTen (exponent : Nat) : Binary64 := .ofNat (Nat.pow 10 exponent)

def divideByPower : Nat → Binary64 → Nat → Binary64
  | 0, x, _ => x
  | fuel + 1, x, exponent =>
    if exponent ≤ 308 then x.div (powerOfTen exponent)
    else if x.isZero then x
    else divideByPower fuel (x.div (powerOfTen 308)) (exponent - 308)

/-- The magnitude `significand · 10^exponent`, if it is finite. -/
def scale? (significand : Nat) (exponent : Int) : Option Binary64 :=
  let x := Binary64.ofNat significand
  -- three divisions by 10^308 leave nothing, so four steps are enough
  if exponent < 0 then some (divideByPower 4 x exponent.natAbs)
  else if exponent ≤ 308 then
    let y := x.mul (powerOfTen exponent.toNat)
    if y.isFinite then some y else none
  else if x.isZero then some x
  else none

namespace Numeral

def isInteger (numeral : Numeral) : Bool := numeral.fraction.isEmpty && numeral.exponent.isNone

def significand (numeral : Numeral) : Nat × Int :=
  let (whole, wholeCount) := takeDigits 0 numeral.whole
  let (both, fractionCount) := takeDigits whole numeral.fraction
  (both, (numeral.whole.length : Int) - wholeCount - fractionCount)

def magnitude? (numeral : Numeral) : Option Binary64 :=
  let (significand, places) := numeral.significand
  match numeral.exponent with
  | none => scale? significand places
  | some (negative, digits) =>
    match exponentValue? digits with
    | some exponent => scale? significand (if negative then places - exponent else places + exponent)
    -- the exponent is too large to be counted
    | none => if significand = 0 || negative then some (.ofNat 0) else none

def value? (numeral : Numeral) : Option Number :=
  let (significand, places) := numeral.significand
  if numeral.isInteger && places == 0 then
    if !numeral.negative then some (.unsigned significand)
    else if significand != 0 && significand ≤ Nat.pow 2 63 then some (.signed (-significand))
    -- zero with a sign is no integer
    else some (.float true (.ofNat significand))
  else numeral.magnitude?.map (.float numeral.negative)

end Numeral

def positional (digits : List Char) (exponent : Int) : List Char :=
  let places := digits.length + exponent
  if 0 ≤ exponent then digits ++ List.replicate exponent.toNat '0' ++ ['.', '0']
  else if 0 < places then digits.take places.toNat ++ ['.'] ++ digits.drop places.toNat
  else ['0', '.'] ++ List.replicate (-places).toNat '0' ++ digits

def scientific (digits : List Char) (exponent : Int) : List Char :=
  let point := if digits.length ≤ 1 then digits else digits.take 1 ++ ['.'] ++ digits.drop 1
  point ++ ['e'] ++ (toString (digits.length + exponent - 1)).toList

/-- The shortest text of a magnitude: positional from 10^-5 to 10^16 with at least one digit on either side
of the point, else with an exponent. -/
def magnitudeChars (x : Binary64) : List Char :=
  if x.isZero then ['0', '.', '0']
  else
    let decimal := x.shortest
    let digits := (toString decimal.digits).toList
    let places := digits.length + decimal.exponent
    if -5 < places && places ≤ 16 then positional digits decimal.exponent
    else scientific digits decimal.exponent

/-- The text of a number; zero and whole numbers of double precision keep a point. -/
def Number.text : Number → String
  | unsigned value => toString value
  | signed value => toString value
  | float negative magnitude =>
    String.ofList ((if negative then ['-'] else []) ++ magnitudeChars magnitude)

def Number.isFloat : Number → Bool
  | float _ _ => true
  | unsigned _ | signed _ => false

end SwaggerSdk.Json
