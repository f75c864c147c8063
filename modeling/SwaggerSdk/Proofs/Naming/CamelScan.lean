import SwaggerSdk.Proofs.Naming.CandidateShape
import SwaggerSdk.Proofs.Text.Cutting

/-!
# Camel case in one pass

Camel case cuts a text into words and joins them again. `camelCaseChars_eq_scan` says that one pass from left to
right writes the same. So all letters and digits of a text are kept, in their order (`camelCase_conserves`).
-/

namespace SwaggerSdk.Naming

/-! ### Characters -/

theorem spaced_of_isAlphanum {c : Char} (h : c.isAlphanum = true) : spaced c = c := by
  unfold spaced
  split
  · next separates =>
    simp only [Bool.or_eq_true, beq_iff_eq] at separates
    rcases separates with rfl | rfl <;> simp at h
  · rfl

theorem isWordChar_spaced (c : Char) : Text.isWordChar (spaced c) = c.isAlphanum := by
  unfold spaced Text.isWordChar
  split
  · next separates =>
    simp only [Bool.or_eq_true, beq_iff_eq] at separates
    rcases separates with rfl | rfl <;> decide
  · next plain =>
    simp only [Bool.or_eq_true, beq_iff_eq, not_or] at plain
    simp [plain.2]

theorem isUpper_iff {c : Char} : c.isUpper = true ↔ 0x41 ≤ c.toNat ∧ c.toNat ≤ 0x5a := by
  simp [Char.isUpper, UInt32.le_iff_toNat_le, ← Char.toNat_val]

theorem isLower_iff {c : Char} : c.isLower = true ↔ 0x61 ≤ c.toNat ∧ c.toNat ≤ 0x7a := by
  simp [Char.isLower, UInt32.le_iff_toNat_le, ← Char.toNat_val]

theorem isDigit_iff {c : Char} : c.isDigit = true ↔ 0x30 ≤ c.toNat ∧ c.toNat ≤ 0x39 := by
  simp [Char.isDigit, UInt32.le_iff_toNat_le, ← Char.toNat_val]

theorem toNat_of_isAlphanum {c : Char} (h : c.isAlphanum = true) : 0x30 ≤ c.toNat ∧ c.toNat < 0x80 := by
  simp only [Char.isAlphanum, Char.isAlpha, Bool.or_eq_true, isUpper_iff, isLower_iff, isDigit_iff] at h
  omega

theorem isBlank_of_isAlphanum {c : Char} (h : c.isAlphanum = true) : Text.isBlank c = false := by
  obtain ⟨low, high⟩ := toNat_of_isAlphanum h
  simp only [Text.isBlank, Bool.or_eq_false_iff, Bool.and_eq_false_iff, decide_eq_false_iff_not, beq_eq_false_iff_ne]
  omega

theorem isDigit_of_isAlpha {c : Char} (h : c.isAlpha = true) : c.isDigit = false := by
  simp only [Char.isAlpha, Bool.or_eq_true, isUpper_iff, isLower_iff] at h
  rw [Bool.eq_false_iff, ne_eq, isDigit_iff]
  omega

theorem isDigit_toLower (c : Char) : c.toLower.isDigit = c.isDigit := by
  by_cases h : c.isAlpha = true
  · rw [isDigit_of_isAlpha h, isDigit_of_isAlpha (by rwa [Char.isAlpha_toLower_eq_isAlpha])]
  · have notUpper : ¬ c.isUpper = true := fun upper => h (by simp [Char.isAlpha, upper])
    rw [Char.toLower_eq_of_not_isUpper notUpper]

/-! ### The pass -/

/-- Whether a character cannot go on with the word before it. -/
def parts (before : Option Char) (c : Char) : Bool :=
  Text.isBlank (spaced c) || before.any Text.isLowercase && Text.isUppercase (spaced c)

/-- The letters and digits of a text in camel case, written from left to right. A capital is due for a letter that
is `fresh`, the first of its word, once the writing has `started`. -/
def scan (before : Option Char) (started fresh : Bool) : List Char → List Char
  | [] => []
  | c :: s =>
    let fresh := fresh || parts before c
    if c.isAlphanum then
      (if started && fresh then c.toUpper else c.toLower) :: scan (some (spaced c)) true false s
    else scan (some (spaced c)) started fresh s

/-! ### The pieces of a text -/

/-- What is left of the stretches between blanks; some of them may be empty. -/
def pieces (s : List Char) : List (List Char) := (Text.split Text.isBlank s).map (·.filter Text.isWordChar)

def joinLater (list : List (List Char)) : List Char :=
  (list.map fun word => capitalize (word.map Char.toLower)).flatten

/-- What camel case writes for the pieces that are still to come. -/
def joinFrom (started fresh : Bool) (list : List (List Char)) : List Char :=
  match started, fresh, list with
  | false, _, list => joinWords (list.filter (!·.isEmpty))
  | true, false, piece :: list => piece.map Char.toLower ++ joinLater list
  | true, _, list => joinLater list

theorem joinWords_cons (first : List Char) (others : List (List Char)) :
    joinWords (first :: others) = first.map Char.toLower ++ joinLater others := rfl

theorem joinLater_cons (first : List Char) (others : List (List Char)) :
    joinLater (first :: others) = capitalize (first.map Char.toLower) ++ joinLater others := rfl

theorem joinLater_filter (list : List (List Char)) : joinLater (list.filter (!·.isEmpty)) = joinLater list := by
  induction list with
  | nil => rfl
  | cons word list ih =>
    cases word with
    | nil => exact ih
    | cons c word => rw [List.filter_cons_of_pos rfl, joinLater_cons, joinLater_cons, ih]

theorem joinFrom_nil_cons (started fresh : Bool) (list : List (List Char)) :
    joinFrom started fresh ([] :: list) = joinFrom started true list := by
  cases started <;> cases fresh <;> rfl

theorem joinFrom_cons_cons (started fresh : Bool) (c : Char) (piece : List Char) (list : List (List Char)) :
    joinFrom started fresh ((c :: piece) :: list) =
      (if started && fresh then c.toUpper else c.toLower) :: joinFrom true false (piece :: list) := by
  cases started with
  | false =>
    change joinWords ((c :: piece) :: list.filter (!·.isEmpty)) = _
    rw [joinWords_cons, joinLater_filter]
    rfl
  | true =>
    cases fresh with
    | false => rfl
    | true =>
      change c.toLower.toUpper :: (piece.map Char.toLower ++ joinLater list) = _
      rw [Char.toUpper_toLower_eq_toUpper]
      rfl

theorem joinFrom_pieces_cons (started fresh : Bool) (c : Char) (s : List Char) :
    joinFrom started fresh (pieces (spaced c :: s)) =
      if c.isAlphanum then
        (if started && (fresh || Text.isBlank (spaced c)) then c.toUpper else c.toLower) ::
          joinFrom true false (pieces s)
      else joinFrom started (fresh || Text.isBlank (spaced c)) (pieces s) := by
  obtain ⟨piece, list, rest⟩ := List.exists_cons_of_ne_nil (Text.split_ne_nil Text.isBlank s)
  unfold pieces
  by_cases letter : c.isAlphanum = true
  · have same := spaced_of_isAlphanum letter
    have solid : Text.isBlank (spaced c) = false := by rw [same, isBlank_of_isAlphanum letter]
    have kept : Text.isWordChar (spaced c) = true := by rw [isWordChar_spaced, letter]
    rw [Text.split_cons_of_neg solid rest, rest, List.map_cons, List.filter_cons_of_pos kept, joinFrom_cons_cons,
      List.map_cons, if_pos letter, solid, Bool.or_false, same]
  · -- it writes nothing, but a blank ends the piece before it
    have dropped : ¬ Text.isWordChar (spaced c) = true := by rwa [isWordChar_spaced]
    rw [if_neg letter]
    cases blank : Text.isBlank (spaced c) with
    | true => rw [Text.split, if_pos blank, List.map_cons, List.filter_nil, joinFrom_nil_cons, Bool.or_true]
    | false =>
      rw [Text.split_cons_of_neg blank rest, rest, List.map_cons, List.filter_cons_of_neg dropped, Bool.or_false,
        List.map_cons]

theorem scan_eq_joinFrom (before : Option Char) (started fresh : Bool) (s : List Char) :
    scan before started fresh s = joinFrom started fresh (pieces (openGaps before s)) := by
  induction s generalizing before started fresh with
  | nil => cases started <;> cases fresh <;> rfl
  | cons c s ih =>
    rw [openGaps, scan, parts, ih, ih]
    cases before.any Text.isLowercase && Text.isUppercase (spaced c) with
    | true =>
      -- the space that is put in is a gap like any other
      have gap := joinFrom_pieces_cons started fresh ' ' (spaced c :: openGaps (some (spaced c)) s)
      rw [if_neg (by decide), show Text.isBlank (spaced ' ') = true from rfl, Bool.or_true] at gap
      refine Eq.trans ?_ gap.symm
      rw [joinFrom_pieces_cons, Bool.true_or, Bool.or_true, Bool.or_true]
    | false =>
      rw [if_neg Bool.false_ne_true, joinFrom_pieces_cons, Bool.or_false]

theorem filter_fields_map (list : List (List Char)) (p : Char → Bool) :
    ((list.filter (!·.isEmpty)).map (·.filter p)).filter (!·.isEmpty) =
      (list.map (·.filter p)).filter (!·.isEmpty) := by
  rw [List.filter_map, List.filter_filter, List.filter_map]
  congr 1
  refine List.filter_congr fun piece _ => ?_
  cases piece <;> simp

theorem joinWords_words (s : List Char) : joinWords (words s) = scan none false true s := by
  rw [scan_eq_joinFrom, words, Text.fields, filter_fields_map]
  rfl

theorem camelCaseChars_eq_scan (s : List Char) : camelCaseChars s = leadWithLetter (scan none false true s) := by
  rw [camelCaseChars, joinWords_words]

/-! ### What is kept -/

theorem map_toLower_scan (before : Option Char) (started fresh : Bool) (s : List Char) :
    (scan before started fresh s).map Char.toLower = (s.filter Char.isAlphanum).map Char.toLower := by
  induction s generalizing before started fresh with
  | nil => rfl
  | cons c s ih =>
    rw [scan]
    by_cases letter : c.isAlphanum = true
    · rw [if_pos letter, List.filter_cons_of_pos letter, List.map_cons, List.map_cons, ih]
      congr 1
      split
      · exact Char.toLower_toUpper_eq_toLower c
      · exact Char.toLower_toLower_eq_toLower c
    · rw [if_neg letter, List.filter_cons_of_neg letter, ih]

theorem any_isDigit_congr {s t : List Char} (same : s.map Char.toLower = t.map Char.toLower) :
    s.head?.any Char.isDigit = t.head?.any Char.isDigit := by
  have lowered : ∀ u : List Char, u.head?.any Char.isDigit = (u.map Char.toLower).head?.any Char.isDigit := by
    intro u
    cases u with
    | nil => rfl
    | cons c u => exact (isDigit_toLower c).symm
  rw [lowered s, lowered t, same]

theorem map_toLower_camelCaseChars (s : List Char) :
    (camelCaseChars s).map Char.toLower =
      (if (s.filter Char.isAlphanum).head?.any Char.isDigit then ['o', 'p'] else []) ++
        (s.filter Char.isAlphanum).map Char.toLower := by
  have kept := map_toLower_scan none false true s
  rw [camelCaseChars_eq_scan, leadWithLetter, any_isDigit_congr kept]
  split
  · rw [List.map_append, kept]
    rfl
  · rw [kept, List.nil_append]

theorem camelCaseChars_eq_nil_iff (s : List Char) : camelCaseChars s = [] ↔ ∀ c ∈ s, c.isAlphanum = false := by
  have letters : s.filter Char.isAlphanum = [] ↔ ∀ c ∈ s, c.isAlphanum = false := by
    simp [List.filter_eq_nil_iff]
  rw [← letters, ← List.map_eq_nil_iff (f := Char.toLower), map_toLower_camelCaseChars]
  constructor
  · intro none
    exact List.map_eq_nil_iff.mp (List.append_eq_nil_iff.mp none).2
  · intro none
    simp [none]

/-- Camel case keeps the letters and digits of a text, each once and in their order, and adds nothing but the
`op` before a leading digit. -/
theorem camelCase_conserves (text : String) :
    (camelCase text = "" ↔ ∀ c ∈ text.toList, c.isAlphanum = false) ∧
    (camelCase text = "" ∨ IsCamel (camelCase text).toList) ∧
    (camelCase text).toList.map Char.toLower =
      (if (text.toList.filter Char.isAlphanum).head?.any Char.isDigit then ['o', 'p'] else []) ++
        (text.toList.filter Char.isAlphanum).map Char.toLower := by
  have empty : camelCase text = "" ↔ camelCaseChars text.toList = [] := by
    rw [camelCase, String.ofList_eq_empty_iff]
  refine ⟨?_, ?_, ?_⟩
  · rw [empty]
    exact camelCaseChars_eq_nil_iff _
  · rw [empty, camelCase, String.toList_ofList]
    exact camelCaseChars_shape _
  · rw [camelCase, String.toList_ofList]
    exact map_toLower_camelCaseChars _

end SwaggerSdk.Naming
