import SwaggerSdk.Text.Blank
import SwaggerSdk.Text.Characters

/-!
# Package names

The name of the generated package: the display name in kebab case, reduced to ASCII. Words are cut at
characters that are not alphanumeric, where the case rises, and before the last capital of a run that a
lower-case letter follows.
-/

namespace SwaggerSdk.Sdk

/-- The case of the last cased letter of the word that is being read. -/
inductive Casing where
  | fresh | lower | upper
  deriving DecidableEq, Repr

def Casing.after (casing : Casing) (c : Char) : Casing :=
  if Text.isLowercase c then .lower else if Text.isUppercase c then .upper else casing

def consWord (c : Char) : List (List Char) → List (List Char)
  | [] => [[c]]
  | word :: words => (c :: word) :: words

/-- Cuts a stretch of alphanumeric characters at its changes of case. -/
def caseWords (casing : Casing) : List Char → List (List Char)
  | [] => []
  | [c] => [[c]]
  | c :: next :: s =>
    -- the case rises
    if casing.after c = .lower && Text.isUppercase next then
      [c] :: caseWords .fresh (next :: s)
    -- the last capital of a run belongs to the lower-case letter behind it
    else if casing = .upper && Text.isUppercase c && Text.isLowercase next then
      [] :: consWord c (caseWords .fresh (next :: s))
    else consWord c (caseWords (casing.after c) (next :: s))

/-- The lower-case letter that a character becomes, as far as ASCII keeps it: the kelvin sign is a `k`,
and the dotted capital `İ` an `i`. -/
def asciiLower (c : Char) : Char :=
  if c == '\u212a' then 'k' else if c == '\u0130' then 'i' else c.toLower

def nameWords (s : List Char) : List (List Char) :=
  (Text.split (!Text.isAlphanumeric ·) s).flatMap (caseWords .fresh)

def kebab (s : List Char) : List Char := ['-'].intercalate ((nameWords s).map (·.map asciiLower))

def isPackageChar (c : Char) : Bool := c.isAlphanum || c == '-'

/-- What is left of the words where nothing but ASCII is kept. Words may lose all that they have, so that
dashes stand beside each other or at an end; these vanish. -/
def packageWords (s : List Char) : List (List Char) :=
  (Text.split (· == '-') ((kebab s).filter isPackageChar)).filter (!·.isEmpty)

def packageName (name : String) : String :=
  let words := packageWords name.toList
  if words.isEmpty then "sdk" else String.ofList (['-'].intercalate words)

end SwaggerSdk.Sdk
