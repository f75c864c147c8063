import SwaggerSdk.Proofs.Naming.CamelScan

/-!
# Ids that are kept

An explicit id names its operation as it stands if and only if it is written in camel case already, with no capital
but behind a lower-case letter, and is not reserved (`candidate_eq_id_iff`). Camel case changes other ids even if it
has made them itself: `a_b_c` becomes `aBC`, and `aBC` becomes `aBc`.
-/

namespace SwaggerSdk.Naming

/-- A capital may stand only behind a lower-case letter. -/
def MayFollow (before c : Char) : Prop := c.isUpper = true → before.isLower = true

/-- A text that starts with a lower-case letter and goes on with letters and digits of ASCII, in which each capital
stands right behind a lower-case letter, and which is not reserved. -/
structure IsKept (id : String) : Prop extends IsCamel id.toList where
  capitals : id.toList.IsChain MayFollow
  free : isReserved id = false

/-! ### Fixed points of camel case -/

section Scan

variable {before c : Char} {s : List Char}

theorem isLowercase_of_isAlphanum (h : c.isAlphanum = true) : Text.isLowercase c = c.isLower :=
  if_pos (toNat_of_isAlphanum h).2

theorem isUppercase_of_isAlphanum (h : c.isAlphanum = true) : Text.isUppercase c = c.isUpper :=
  if_pos (toNat_of_isAlphanum h).2

theorem parts_of_isAlphanum (beforeLetter : before.isAlphanum = true) (letter : c.isAlphanum = true) :
    parts (some before) c = (before.isLower && c.isUpper) := by
  simp only [parts, spaced_of_isAlphanum letter, isBlank_of_isAlphanum letter, Option.any_some, Bool.false_or,
    isLowercase_of_isAlphanum beforeLetter, isUppercase_of_isAlphanum letter]

theorem toLower_eq_self_iff (c : Char) : c.toLower = c ↔ c.isUpper = false := by
  constructor
  · intro same
    rw [← same, Char.isUpper_toLower_eq_false]
  · intro notUpper
    exact Char.toLower_eq_of_not_isUpper (by simp [notUpper])

theorem isUpper_of_isLower (lower : c.isLower = true) : c.isUpper = false := by
  rw [isLower_iff] at lower
  rw [Bool.eq_false_iff, ne_eq, isUpper_iff]
  omega

theorem toUpper_of_isUpper (upper : c.isUpper = true) : c.toUpper = c := by
  refine Char.toUpper_eq_of_not_isLower fun lower => ?_
  rw [isUpper_of_isLower lower] at upper
  cases upper

/-- Inside a word the pass keeps a text if no capital stands where no word begins. -/
theorem scan_eq_self_iff (beforeLetter : before.isAlphanum = true) (letters : ∀ c ∈ s, c.isAlphanum = true) :
    scan (some before) true false s = s ↔ (before :: s).IsChain MayFollow := by
  induction s generalizing before with
  | nil => simp [scan]
  | cons c s ih =>
    have letter := letters c List.mem_cons_self
    have others := ih letter fun d inside => letters d (List.mem_cons_of_mem c inside)
    rw [scan, if_pos letter, spaced_of_isAlphanum letter, parts_of_isAlphanum beforeLetter letter, List.cons.injEq,
      others, List.isChain_cons_cons, Bool.true_and, Bool.false_or]
    refine and_congr_left fun _ => ?_
    unfold MayFollow
    cases upper : c.isUpper with
    | false => simp [toLower_eq_self_iff, upper]
    | true =>
      -- a capital that begins no word is written small
      cases lower : before.isLower with
      | false => simp [toLower_eq_self_iff, upper]
      | true => simp [toUpper_of_isUpper upper]

theorem camelCaseChars_eq_self_iff (camel : IsCamel s) : camelCaseChars s = s ↔ s.IsChain MayFollow := by
  obtain ⟨head, letters⟩ := camel
  cases s with
  | nil => cases head
  | cons c s =>
    have lower : c.isLower = true := head
    have first := letters c List.mem_cons_self
    have same : c.toLower = c := (toLower_eq_self_iff c).mpr (isUpper_of_isLower lower)
    have notDigit : c.isDigit = false := isDigit_of_isAlpha (by simp [Char.isAlpha, lower])
    have written : scan none false true (c :: s) = c :: scan (some c) true false s := by
      rw [scan, if_pos first, spaced_of_isAlphanum first, Bool.false_and, if_neg Bool.false_ne_true, same]
    have led : leadWithLetter (c :: scan (some c) true false s) = c :: scan (some c) true false s :=
      if_neg (by simp [notDigit])
    rw [camelCaseChars_eq_scan, written, led, List.cons.injEq, eq_self, true_and]
    exact scan_eq_self_iff first fun d inside => letters d (List.mem_cons_of_mem c inside)

example : camelCase "a_b_c" = "aBC" ∧ camelCase "aBC" = "aBc" := by decide +kernel

end Scan

/-! ### From an id to its candidate -/

section Id

variable {id : String} (letters : ∀ c ∈ id.toList, c.isAlphanum = true) (nonempty : id.toList ≠ [])

include letters

theorem trim_of_letters : Text.trim id.toList = id.toList :=
  Text.strip_of_solid fun c inside => isBlank_of_isAlphanum (letters c inside)

include nonempty

theorem sanitizeChars_of_letters : sanitizeChars id.toList = id.toList := by
  have wordChars : ∀ c ∈ id.toList, Text.isWordChar c = true := by
    intro c inside
    simp [Text.isWordChar, letters c inside]
  have kept : (id.toList.map fun c => if Text.isWordChar c then c else '_') = id.toList :=
    (List.map_congr_left fun c inside => if_pos (wordChars c inside)).trans (List.map_id' _)
  have whole : Text.strip (· == '_') id.toList = id.toList := by
    refine Text.strip_of_solid fun c inside => ?_
    have letter := letters c inside
    rw [beq_eq_false_iff_ne]
    rintro rfl
    simp at letter
  simp only [sanitizeChars, trim_of_letters letters, kept, whole]
  exact if_neg (by simpa using nonempty)

theorem candidateChars_of_letters (method : Method) (path : List Char) :
    candidateChars method path (some id) = avoidReserved (camelCaseChars id.toList) := by
  have raw : rawNameChars method path (some id) = id.toList := by
    rw [rawNameChars, explicitId?, Option.map_some, trim_of_letters letters,
      Option.filter_some_pos (by simpa using nonempty), Option.getD_some]
  have written : camelCaseChars id.toList ≠ [] := by
    intro none
    obtain ⟨c, inside⟩ := List.exists_mem_of_ne_nil _ nonempty
    have dropped := (camelCaseChars_eq_nil_iff _).mp none c inside
    rw [letters c inside] at dropped
    cases dropped
  have sanitized := sanitizeChars_of_letters letters nonempty
  rw [candidateChars, raw, declarableChars_of_ne_nil (by rwa [sanitized]), sanitized]

end Id

theorem length_le_camelCaseChars {s : List Char} (letters : ∀ c ∈ s, c.isAlphanum = true) :
    s.length ≤ (camelCaseChars s).length := by
  have kept := congrArg List.length (map_toLower_camelCaseChars s)
  rw [List.length_map, List.length_append, List.length_map, List.filter_eq_self.mpr letters] at kept
  omega

/-- Which explicit ids are kept as they are. -/
theorem candidate_eq_id_iff (route : Route) (id : String) : candidate route (some id) = id ↔ IsKept id := by
  have closed : ∀ camel : IsCamel id.toList,
      (candidate route (some id)).toList = avoidReserved (camelCaseChars id.toList) := by
    intro camel
    have nonempty : id.toList ≠ [] := by
      intro empty
      have head := camel.head
      rw [empty] at head
      cases head
    rw [candidate, String.toList_ofList, candidateChars_of_letters camel.alphanum nonempty]
  constructor
  · intro same
    have camel : IsCamel id.toList := same ▸ isCamel_candidate route (some id)
    have free : isReserved id = false := same ▸ isReserved_candidate route (some id)
    have written := closed camel
    rw [same] at written
    -- a suffix would make the candidate longer than the id
    have fixed : camelCaseChars id.toList = id.toList := by
      unfold avoidReserved at written
      split at written
      · have longer := congrArg List.length written
        have least := length_le_camelCaseChars camel.alphanum
        rw [List.length_append] at longer
        simp only [List.length_cons, List.length_nil] at longer
        omega
      · exact written.symm
    exact ⟨camel, (camelCaseChars_eq_self_iff camel).mp fixed, free⟩
  · rintro ⟨camel, capitals, free⟩
    have fixed := (camelCaseChars_eq_self_iff camel).mpr capitals
    refine String.toList_inj.mp ?_
    rw [closed camel, fixed, avoidReserved, String.ofList_toList, free]
    rfl

end SwaggerSdk.Naming
