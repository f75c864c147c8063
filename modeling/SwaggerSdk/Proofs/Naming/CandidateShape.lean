import Mathlib
import SwaggerSdk.Naming.Candidate
import SwaggerSdk.Proofs.Text.Cutting

/-!
# The shape of candidate names

Whatever the route and the explicit id hold, a candidate starts with a lower-case letter of ASCII, goes on
with letters and digits, and is not reserved. It has no underscore, so nothing that is put behind a double
underscore can be read as part of it.
-/

namespace SwaggerSdk.Naming

/-- A lower-case letter first, then letters and digits, all of ASCII. -/
structure IsCamel (s : List Char) : Prop where
  head : s.head?.any Char.isLower = true
  alphanum : ∀ c ∈ s, c.isAlphanum = true

theorem isCamel_append {s t : List Char} (h : IsCamel s) (ht : ∀ c ∈ t, c.isAlphanum = true) :
    IsCamel (s ++ t) := by
  obtain ⟨head, alphanum⟩ := h
  refine ⟨?_, fun c hc => (List.mem_append.mp hc).elim (alphanum c) (ht c)⟩
  cases s with
  | nil => cases head
  | cons c s => exact head

theorem isCamel_fallback : IsCamel fallback := by
  refine ⟨by decide, fun c hc => ?_⟩
  simp only [fallback, List.mem_cons, List.not_mem_nil, or_false] at hc
  rcases hc with rfl | rfl <;> decide

/-! ### Words -/

theorem mem_of_mem_fields {s piece : List Char} {c : Char} (h : piece ∈ Text.fields s) (hc : c ∈ piece) :
    c ∈ s := (Text.mem_of_mem_split (List.mem_filter.mp h).1 hc).1

theorem spaced_ne_underscore (c : Char) : spaced c ≠ '_' := by
  unfold spaced
  split
  · decide
  · rename_i h
    intro same
    simp [same] at h

theorem ne_underscore_of_mem_openGaps {before : Option Char} {s : List Char} {c : Char}
    (h : c ∈ openGaps before s) : c ≠ '_' := by
  induction s generalizing before with
  | nil => simp [openGaps] at h
  | cons d s ih =>
    have tail : c ∈ spaced d :: openGaps (some (spaced d)) s → c ≠ '_' := by
      intro h
      rcases List.mem_cons.mp h with rfl | h
      · exact spaced_ne_underscore d
      · exact ih h
    rw [openGaps] at h
    split at h
    · rcases List.mem_cons.mp h with rfl | h
      · decide
      · exact tail h
    · exact tail h

theorem isAlphanum_of_mem_words {s word : List Char} {c : Char} (h : word ∈ words s) (hc : c ∈ word) :
    c.isAlphanum = true := by
  obtain ⟨piece, hpiece, rfl⟩ := List.mem_map.mp (List.mem_filter.mp h).1
  obtain ⟨inside, wordChar⟩ := List.mem_filter.mp hc
  have noUnderscore := ne_underscore_of_mem_openGaps (mem_of_mem_fields hpiece inside)
  simpa [Text.isWordChar, noUnderscore] using wordChar

theorem ne_nil_of_mem_words {s word : List Char} (h : word ∈ words s) : word ≠ [] := by
  simpa using (List.mem_filter.mp h).2

/-! ### Camel case -/

theorem isAlphanum_toLower (c : Char) : c.toLower.isAlphanum = c.isAlphanum := by
  by_cases h : c.isUpper = true
  · simp [Char.isAlphanum, Char.isAlpha, h]
  · rw [Char.toLower_eq_of_not_isUpper h]

theorem isAlphanum_toUpper (c : Char) : c.toUpper.isAlphanum = c.isAlphanum := by
  by_cases h : c.isLower = true
  · simp [Char.isAlphanum, Char.isAlpha, h]
  · rw [Char.toUpper_eq_of_not_isLower h]

theorem isAlphanum_of_mem_capitalize {s : List Char} (h : ∀ c ∈ s, c.isAlphanum = true) :
    ∀ c ∈ capitalize s, c.isAlphanum = true := by
  cases s with
  | nil => exact h
  | cons d s =>
    intro c hc
    rcases List.mem_cons.mp hc with rfl | hc
    · rw [isAlphanum_toUpper]
      exact h d List.mem_cons_self
    · exact h c (List.mem_cons_of_mem _ hc)

theorem isAlphanum_of_mem_lower {s : List Char} (h : ∀ c ∈ s, c.isAlphanum = true) :
    ∀ c ∈ s.map Char.toLower, c.isAlphanum = true := by
  intro c hc
  obtain ⟨d, hd, rfl⟩ := List.mem_map.mp hc
  rw [isAlphanum_toLower]
  exact h d hd

theorem isAlphanum_of_mem_joinWords {list : List (List Char)}
    (h : ∀ word ∈ list, ∀ c ∈ word, c.isAlphanum = true) : ∀ c ∈ joinWords list, c.isAlphanum = true := by
  cases list with
  | nil => simp [joinWords]
  | cons first others =>
    intro c hc
    rcases List.mem_append.mp hc with hc | hc
    · exact isAlphanum_of_mem_lower (h first List.mem_cons_self) c hc
    · obtain ⟨piece, hpiece, hc⟩ := List.mem_flatten.mp hc
      obtain ⟨word, hword, rfl⟩ := List.mem_map.mp hpiece
      have lower := isAlphanum_of_mem_lower (h word (List.mem_cons_of_mem _ hword))
      exact isAlphanum_of_mem_capitalize lower c hc

theorem head_joinWords {c : Char} {word : List Char} {others : List (List Char)} :
    (joinWords ((c :: word) :: others)).head? = some c.toLower := rfl

theorem isCamel_leadWithLetter {c : Char} {s : List Char} (head : s.head? = some c)
    (alphanum : ∀ d ∈ s, d.isAlphanum = true) (lower : c.isLower = true ∨ c.isDigit = true) :
    IsCamel (leadWithLetter s) := by
  unfold leadWithLetter
  rw [head]
  split
  · exact isCamel_append isCamel_fallback alphanum
  · rename_i digit
    exact ⟨by rw [head]; exact lower.resolve_right (by simpa using digit), alphanum⟩

theorem camelCaseChars_shape (s : List Char) : camelCaseChars s = [] ∨ IsCamel (camelCaseChars s) := by
  unfold camelCaseChars
  have alphanum := isAlphanum_of_mem_joinWords fun word h c => isAlphanum_of_mem_words (s := s) h (c := c)
  cases hw : words s with
  | nil => exact Or.inl rfl
  | cons first others =>
    rw [hw] at alphanum
    cases first with
    | nil => exact absurd rfl (ne_nil_of_mem_words (hw ▸ List.mem_cons_self))
    | cons c word =>
      refine Or.inr (isCamel_leadWithLetter head_joinWords alphanum ?_)
      have first := alphanum c.toLower (List.mem_of_mem_head? head_joinWords)
      simp only [Char.isAlphanum, Char.isAlpha, Char.isUpper_toLower_eq_false, Bool.false_or,
        Bool.or_eq_true] at first
      exact first

/-! ### Candidates -/

/-- Reserved words are written in lower case, so neither a capital nor an underscore is in one. -/
theorem isLower_of_mem_reservedWords : ∀ word ∈ reservedWords, word.toList.all Char.isLower = true := by
  decide

theorem not_isReserved_of_mem {name : String} {c : Char} (hc : c ∈ name.toList) (h : c.isLower = false) :
    isReserved name = false := by
  rw [isReserved, List.contains_eq_mem, decide_eq_false_iff_not]
  intro reserved
  have lower := List.all_eq_true.mp (isLower_of_mem_reservedWords name reserved) c hc
  rw [h] at lower
  cases lower

theorem not_isReserved_avoidReserved (s : List Char) : isReserved (String.ofList (avoidReserved s)) = false := by
  unfold avoidReserved
  split
  · exact not_isReserved_of_mem (c := 'O') (by simp) (by decide)
  · rename_i h
    simpa using h

theorem isCamel_avoidReserved {s : List Char} (h : IsCamel s) : IsCamel (avoidReserved s) := by
  unfold avoidReserved
  split
  · refine isCamel_append h fun c hc => ?_
    simp only [List.mem_cons, List.not_mem_nil, or_false] at hc
    rcases hc with rfl | rfl <;> decide
  · exact h

theorem declarableChars_of_ne_nil {raw : List Char} (nonempty : camelCaseChars (sanitizeChars raw) ≠ []) :
    declarableChars raw = avoidReserved (camelCaseChars (sanitizeChars raw)) :=
  congrArg avoidReserved (if_neg (by simpa using nonempty))

theorem isCamel_declarableChars (raw : List Char) : IsCamel (declarableChars raw) := by
  refine isCamel_avoidReserved ?_
  rcases camelCaseChars_shape (sanitizeChars raw) with empty | camel
  · rw [empty]
    exact isCamel_fallback
  · split
    · exact isCamel_fallback
    · exact camel

/-! ### Candidates as texts -/

theorem isReserved_candidate (route : Route) (id? : Option String) :
    isReserved (candidate route id?) = false := by
  unfold candidate candidateChars declarableChars
  exact not_isReserved_avoidReserved _

theorem isCamel_candidate (route : Route) (id? : Option String) : IsCamel (candidate route id?).toList := by
  rw [candidate, String.toList_ofList]
  exact isCamel_declarableChars _

theorem underscore_notMem_candidate (route : Route) (id? : Option String) :
    '_' ∉ (candidate route id?).toList := fun h =>
  absurd ((isCamel_candidate route id?).alphanum _ h) (by decide)

theorem isIdentifierChars_append {s t : List Char} (h : IsCamel s) (ht : ∀ c ∈ t, Text.isWordChar c = true) :
    isIdentifierChars (s ++ t) = true := by
  obtain ⟨head, alphanum⟩ := h
  cases s with
  | nil => cases head
  | cons c s =>
    have first : c.isAlpha = true := by
      have lower : c.isLower = true := head
      simp [Char.isAlpha, lower]
    have others : ∀ d ∈ s ++ t, Text.isWordChar d = true := by
      intro d hd
      rcases List.mem_append.mp hd with hd | hd
      · simp [Text.isWordChar, alphanum d (List.mem_cons_of_mem _ hd)]
      · exact ht d hd
    simp only [List.cons_append, isIdentifierChars, first, Bool.true_or, Bool.true_and]
    exact List.all_eq_true.mpr others

end SwaggerSdk.Naming
