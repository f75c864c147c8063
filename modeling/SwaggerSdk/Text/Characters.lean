import SwaggerSdk.Text.Property.Alphanumeric
import SwaggerSdk.Text.Property.Extending
import SwaggerSdk.Text.Property.Hidden
import SwaggerSdk.Text.Property.Lowercase
import SwaggerSdk.Text.Property.Uppercase

/-!
# Characters

What characters are as letters and digits, and how a text is shown in messages. Membership in the Unicode properties
`Lowercase`, `Uppercase` and `Alphabetic` or `Number` is looked up in tables; below U+0080 each is its ASCII rule, so
nothing that is said about ASCII text depends on the tables.
-/

namespace SwaggerSdk.Text

/-- Membership in a set of code points that is given by where it begins and ends: an odd number of the
toggles lies at or below the members. -/
def within (toggles : List Nat) (n : Nat) : Bool := toggles.countP (· ≤ n) % 2 == 1

/-! ### Letters and digits -/

def isLowercase (c : Char) : Bool :=
  if c.toNat < 0x80 then c.isLower else within lowercaseToggles c.toNat

def isUppercase (c : Char) : Bool :=
  if c.toNat < 0x80 then c.isUpper else within uppercaseToggles c.toNat

def isAlphanumeric (c : Char) : Bool :=
  if c.toNat < 0x80 then c.isAlphanum else within alphanumericToggles c.toNat

def isWordChar (c : Char) : Bool := c.isAlphanum || c == '_'

/-- The number that a hexadecimal digit writes, in either case. -/
def hexDigit? (c : Char) : Option Nat :=
  if c.isDigit then some (c.toNat - '0'.toNat)
  else if 'a' ≤ c && c ≤ 'f' then some (c.toNat - 'a'.toNat + 10)
  else if 'A' ≤ c && c ≤ 'F' then some (c.toNat - 'A'.toNat + 10)
  else none

def hexValue? (digits : List Char) : Option Nat :=
  digits.foldl (fun value? c => do return 16 * (← value?) + (← hexDigit? c)) (some 0)

/-! ### Texts in messages

A shown text stands in double quotes on one line. Characters that could not be seen, or that would join
the quote before them, are given by their code. -/

def isHidden (c : Char) : Bool :=
  if c.toNat < 0x80 then c.toNat < 0x20 || c.toNat == 0x7f else within hiddenToggles c.toNat

def isExtending (c : Char) : Bool := 0x80 ≤ c.toNat && within extendingToggles c.toNat

def showChar (c : Char) : List Char :=
  match c with
  | '\x00' => ['\\', '0']
  | '\t' => ['\\', 't']
  | '\r' => ['\\', 'r']
  | '\n' => ['\\', 'n']
  | '"' => ['\\', '"']
  | '\\' => ['\\', '\\']
  | c =>
    if isExtending c || isHidden c then
      ['\\', 'u', '\x7b'] ++ Nat.toDigits 16 c.toNat ++ ['\x7d']
    else [c]

def shown (text : String) : String :=
  String.ofList ('"' :: (text.toList.flatMap showChar ++ ['"']))

end SwaggerSdk.Text
