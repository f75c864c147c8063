/-!
# Blanks, and cutting a text at them

A blank is a character with the Unicode property `White_Space`. This module trims texts, cuts them into
the stretches between separators, and joins such stretches again. `split_flatten` says that cutting
loses the separators only.
-/

namespace SwaggerSdk.Text

def isBlank (c : Char) : Bool :=
  let n := c.toNat
  (0x9 ≤ n && n ≤ 0xd) || n == 0x20 || n == 0x85 || n == 0xa0 || n == 0x1680 ||
    (0x2000 ≤ n && n ≤ 0x200a) || n == 0x2028 || n == 0x2029 || n == 0x202f || n == 0x205f || n == 0x3000

def stripEnd (p : Char → Bool) (s : List Char) : List Char := (s.reverse.dropWhile p).reverse

def strip (p : Char → Bool) (s : List Char) : List Char := stripEnd p (s.dropWhile p)

def trim (s : List Char) : List Char := strip isBlank s

/-- The stretches between the characters that satisfy `p`: one more than there are such characters. -/
def split (p : Char → Bool) : List Char → List (List Char)
  | [] => [[]]
  | c :: s =>
    if p c then [] :: split p s
    else
      match split p s with
      | [] => [[c]]
      | piece :: pieces => (c :: piece) :: pieces

def fields (s : List Char) : List (List Char) := (split isBlank s).filter (!·.isEmpty)

def singleLine (s : List Char) : List Char := [' '].intercalate (fields s)

/-- The lines of a text; a line feed ends a line, so nothing follows the last one. -/
def lines (s : List Char) : List (List Char) :=
  let pieces := split (· == '\n') s
  if pieces.getLast? == some [] then pieces.dropLast else pieces

theorem split_ne_nil (p : Char → Bool) (s : List Char) : split p s ≠ [] := by
  cases s with
  | nil => simp [split]
  | cons c s =>
    rw [split]
    split
    · simp
    · split <;> simp

theorem split_flatten (p : Char → Bool) (s : List Char) :
    (split p s).flatten = s.filter (!p ·) := by
  induction s with
  | nil => rfl
  | cons c s ih =>
    by_cases h : p c
    · simp [split, h, ih]
    · cases hs : split p s with
      | nil => exact absurd hs (split_ne_nil p s)
      | cons piece pieces => simp_all [split]

def trimmed (s : String) : String := String.ofList (trim s.toList)

def oneLine (s : String) : String := String.ofList (singleLine s.toList)

end SwaggerSdk.Text
