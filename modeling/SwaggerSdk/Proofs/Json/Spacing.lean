import Mathlib.Data.List.DropRight
import SwaggerSdk.Datum
import SwaggerSdk.Proofs.Json.Strings

/-!
# What is spelled is read

Data determine the tokens that they are spelled with, and between two tokens there may be any gaps. However they are
spaced, the tokens of data are read as the tree that the data describe (`ofText_spaced`). A value needs no more steps
of reading than it has tokens.
-/

namespace SwaggerSdk.Json

mutual

def treeOf : Datum → Tree
  | .flag value => .flag value
  | .text value => .text (.ofText value)
  | .list items => .array (itemTrees items) none
  | .record fields => .object (memberTrees fields) none

def itemTrees : List Datum → List Tree
  | [] => []
  | item :: items => treeOf item :: itemTrees items

def memberTrees : List (String × Datum) → List (Lexeme × Tree)
  | [] => []
  | (name, value) :: fields => (.ofText name, treeOf value) :: memberTrees fields

end

/-! ### Tokens and gaps -/

mutual

def tokens : Datum → List (List Char)
  | .flag value => [Datum.flagChars value]
  | .text value => [quoteChars value.toList]
  | .list items => ['['] :: itemTokens items
  | .record fields => ['\x7b'] :: fieldTokens fields

def itemTokens : List Datum → List (List Char)
  | [] => [[']']]
  | [item] => tokens item ++ [[']']]
  | item :: items => tokens item ++ [','] :: itemTokens items

def fieldTokens : List (String × Datum) → List (List Char)
  | [] => [['\x7d']]
  | [(name, value)] => quoteChars name.toList :: [':'] :: (tokens value ++ [['\x7d']])
  | (name, value) :: fields => quoteChars name.toList :: [':'] :: (tokens value ++ [','] :: fieldTokens fields)

end

/-- A text in which tokens stand one behind the other, with any gaps around them. -/
inductive Spaced : List (List Char) → List Char → Prop
  | nil : Spaced [] []
  | token {c : Char} {token : List Char} {tokens : List (List Char)} {s : List Char} (solid : isGap c = false) :
      Spaced tokens s → Spaced ((c :: token) :: tokens) (c :: (token ++ s))
  | gap {c : Char} {tokens : List (List Char)} {s : List Char} (blank : isGap c) : Spaced tokens s → Spaced tokens (c :: s)

section Spacing

variable {c : Char} {token s gap rest : List Char} {more : List (List Char)}

theorem skipGap_cons (solid : isGap c = false) : skipGap (c :: rest) = c :: rest :=
  List.dropWhile_cons_of_neg (by simp [solid])

theorem skipGap_cons_of_isGap (blank : isGap c) : skipGap (c :: rest) = skipGap rest := List.dropWhile_cons_of_pos blank

theorem Spaced.gaps (blank : ∀ c ∈ gap, isGap c) (spaced : Spaced more s) : Spaced more (gap ++ s) := by
  induction gap with
  | nil => exact spaced
  | cons c gap ih => exact .gap (blank c List.mem_cons_self) (ih fun c inside => blank c (List.mem_cons_of_mem _ inside))

theorem Spaced.length_le (spaced : Spaced more s) : more.length ≤ s.length := by
  induction spaced with
  | nil => exact Nat.le_refl _
  | token _ _ ih => simp only [List.length_cons, List.length_append]; omega
  | gap _ _ ih => simp only [List.length_cons]; omega

theorem Spaced.skipGap (spaced : Spaced more s) : Spaced more (skipGap s) := by
  induction spaced with
  | nil => exact .nil
  | token solid spaced _ =>
    rw [skipGap_cons solid]
    exact .token solid spaced
  | gap blank _ ih => rwa [skipGap_cons_of_isGap blank]

theorem Spaced.skipGap_eq_nil : ∀ {s : List Char}, Spaced [] s → Json.skipGap s = []
  | _, .nil => rfl
  | _, .gap blank spaced => (skipGap_cons_of_isGap blank).trans spaced.skipGap_eq_nil

/-- Behind the gap in front of it stands the first token. -/
theorem Spaced.exists_skipGap : ∀ {s : List Char}, Spaced ((c :: token) :: more) s →
    ∃ rest, Json.skipGap s = c :: (token ++ rest) ∧ Spaced more rest
  | _, .token solid spaced => ⟨_, skipGap_cons solid, spaced⟩
  | _, .gap blank spaced => by
    obtain ⟨rest, skipped, behind⟩ := spaced.exists_skipGap
    exact ⟨rest, (skipGap_cons_of_isGap blank).trans skipped, behind⟩

end Spacing

/-! ### Single steps of reading -/

section Steps

variable {fuel : Nat} {c : Char} {s rest behind : List Char} {tree : Tree}

theorem readValue_skipGap (fuel : Nat) (s : List Char) : readValue (fuel + 1) (skipGap s) = readValue (fuel + 1) s := by
  have same : skipGap (skipGap s) = skipGap s := List.dropWhile_idempotent isGap s
  simp only [readValue, same]

theorem readValue_quoted (text : String) :
    readValue (fuel + 1) (quoteChars text.toList ++ rest) = (.text (.ofText text), rest) := by
  have string := readString_quoted text.toList rest
  simp only [quoteChars, List.cons_append, List.append_assoc, List.nil_append]
  rw [readValue, skipGap_cons rfl]
  simp only [string]
  rfl

theorem readValue_emptyArray (closing : skipGap s = ']' :: rest) :
    readValue (fuel + 1) ('[' :: s) = (.array [] none, rest) := by
  rw [readValue, skipGap_cons rfl]
  simp only [closing]

theorem readValue_emptyObject (closing : skipGap s = '\x7d' :: rest) :
    readValue (fuel + 1) ('\x7b' :: s) = (.object [] none, rest) := by
  rw [readValue, skipGap_cons rfl]
  simp only [closing]

theorem readValue_array {items : List Tree} {fault : Option Fault} (first : skipGap s = c :: rest) (open_ : c ≠ ']')
    (inner : readItems fuel (skipGap s) = (items, fault, behind)) :
    readValue (fuel + 1) ('[' :: s) = (.array items fault, behind) := by
  rw [first] at inner
  rw [readValue, skipGap_cons rfl]
  simp only [first]
  split <;> simp_all

theorem readValue_object {members : List (Lexeme × Tree)} {fault : Option Fault} (first : skipGap s = c :: rest)
    (open_ : c ≠ '\x7d') (inner : readMembers fuel (skipGap s) = (members, fault, behind)) :
    readValue (fuel + 1) ('\x7b' :: s) = (.object members fault, behind) := by
  rw [first] at inner
  rw [readValue, skipGap_cons rfl]
  simp only [first]
  split <;> simp_all

theorem readItems_last (item : readValue fuel s = (tree, behind)) (closing : skipGap behind = ']' :: rest) :
    readItems (fuel + 1) s = ([tree], none, rest) := by
  rw [readItems, item]
  simp only [closing]

theorem readItems_next {items : List Tree} {fault : Option Fault} {after : List Char}
    (item : readValue fuel s = (tree, behind)) (comma : skipGap behind = ',' :: rest)
    (others : readItems fuel rest = (items, fault, after)) :
    readItems (fuel + 1) s = (tree :: items, fault, after) := by
  rw [readItems, item]
  simp only [comma, others]

theorem readMembers_last (name : String) {colon : List Char} (named : s = quoteChars name.toList ++ colon)
    (value : skipGap colon = ':' :: rest) (typed : readValue fuel rest = (tree, behind)) {after : List Char}
    (closing : skipGap behind = '\x7d' :: after) :
    readMembers (fuel + 1) s = ([(.ofText name, tree)], none, after) := by
  simp only [named, quoteChars, List.cons_append, List.append_assoc, List.nil_append]
  rw [readMembers, readString_quoted]
  simp only [value, typed, closing]
  rfl

theorem readMembers_next (name : String) {colon : List Char} (named : s = quoteChars name.toList ++ colon)
    (value : skipGap colon = ':' :: rest) (typed : readValue fuel rest = (tree, behind)) {next after : List Char}
    (comma : skipGap behind = ',' :: next) {members : List (Lexeme × Tree)} {fault : Option Fault}
    (others : readMembers fuel (skipGap next) = (members, fault, after)) :
    readMembers (fuel + 1) s = ((.ofText name, tree) :: members, fault, after) := by
  simp only [named, quoteChars, List.cons_append, List.append_assoc, List.nil_append]
  rw [readMembers, readString_quoted]
  simp only [value, typed, comma, others]
  rfl

end Steps

/-! ### Whole values -/

theorem exists_tokens (datum : Datum) : ∃ c token more, tokens datum = (c :: token) :: more ∧ c ≠ ']' := by
  cases datum with
  | flag value => cases value <;> exact ⟨_, _, _, rfl, by decide⟩
  | text value => exact ⟨'"', _, _, rfl, by decide⟩
  | list items => exact ⟨'[', _, _, rfl, by decide⟩
  | record fields => exact ⟨'\x7b', _, _, rfl, by decide⟩

theorem itemTokens_cons_cons (item next : Datum) (items : List Datum) :
    itemTokens (item :: next :: items) = tokens item ++ [','] :: itemTokens (next :: items) := rfl

theorem fieldTokens_cons_cons (name : String) (value : Datum) (next : String × Datum) (fields : List (String × Datum)) :
    fieldTokens ((name, value) :: next :: fields) =
      quoteChars name.toList :: [':'] :: (tokens value ++ [','] :: fieldTokens (next :: fields)) := rfl

theorem exists_itemTokens (item : Datum) (items : List Datum) :
    ∃ c token more, itemTokens (item :: items) = (c :: token) :: more ∧ c ≠ ']' := by
  obtain ⟨c, token, more, first, noEnd⟩ := exists_tokens item
  cases items with
  | nil => exact ⟨c, token, _, by rw [itemTokens, first, List.cons_append], noEnd⟩
  | cons next items => exact ⟨c, token, _, by rw [itemTokens_cons_cons, first, List.cons_append], noEnd⟩

theorem exists_fieldTokens (field : String × Datum) (fields : List (String × Datum)) :
    ∃ name more, fieldTokens (field :: fields) = quoteChars name :: more := by
  cases fields with
  | nil => exact ⟨_, _, rfl⟩
  | cons next fields => exact ⟨_, _, rfl⟩

-- the fuel is compared with the number of tokens, since the gaps take no steps of reading
mutual

theorem readValue_spaced : ∀ (datum : Datum) (fuel : Nat) {after : List (List Char)} {s : List Char},
    Spaced (tokens datum ++ after) s → (tokens datum).length < fuel →
      ∃ rest, readValue fuel s = (treeOf datum, rest) ∧ Spaced after rest
  | .flag value, fuel + 1, after, s, spaced, _ => by
    cases value
    all_goals
      obtain ⟨rest, skipped, behind⟩ := spaced.exists_skipGap
      exact ⟨rest, by rw [← readValue_skipGap, skipped]; rfl, behind⟩
  | .text value, fuel + 1, after, s, spaced, _ => by
    obtain ⟨rest, skipped, behind⟩ := spaced.exists_skipGap
    exact ⟨rest, by rw [← readValue_skipGap, skipped]; exact readValue_quoted value, behind⟩
  | .list [], fuel + 1, after, s, spaced, _ => by
    obtain ⟨inner, opened, spaced⟩ := spaced.exists_skipGap
    obtain ⟨rest, closed, behind⟩ := spaced.exists_skipGap
    exact ⟨rest, by rw [← readValue_skipGap, opened]; exact readValue_emptyArray closed, behind⟩
  | .list (item :: items), fuel + 1, after, s, spaced, enough => by
    obtain ⟨inner, opened, spaced⟩ := spaced.exists_skipGap
    have enough' : (itemTokens (item :: items)).length < fuel := by
      simp only [tokens, List.length_cons] at enough
      omega
    obtain ⟨rest, read, behind⟩ := readItems_spaced item items fuel spaced.skipGap enough'
    -- the list does not end at once, so the reader goes on with items
    obtain ⟨c, token, more, first, noEnd⟩ := exists_itemTokens item items
    have spaced' : Spaced (itemTokens (item :: items) ++ after) inner := spaced
    rw [first] at spaced'
    obtain ⟨_, skipped, -⟩ := spaced'.exists_skipGap
    exact ⟨rest, by rw [← readValue_skipGap, opened]; exact readValue_array skipped noEnd read, behind⟩
  | .record [], fuel + 1, after, s, spaced, _ => by
    obtain ⟨inner, opened, spaced⟩ := spaced.exists_skipGap
    obtain ⟨rest, closed, behind⟩ := spaced.exists_skipGap
    exact ⟨rest, by rw [← readValue_skipGap, opened]; exact readValue_emptyObject closed, behind⟩
  | .record (field :: fields), fuel + 1, after, s, spaced, enough => by
    obtain ⟨inner, opened, spaced⟩ := spaced.exists_skipGap
    have enough' : (fieldTokens (field :: fields)).length < fuel := by
      simp only [tokens, List.length_cons] at enough
      omega
    obtain ⟨rest, read, behind⟩ := readMembers_spaced field fields fuel spaced enough'
    obtain ⟨name, more, first⟩ := exists_fieldTokens field fields
    have spaced' : Spaced (fieldTokens (field :: fields) ++ after) inner := spaced
    rw [first] at spaced'
    obtain ⟨_, skipped, -⟩ := spaced'.exists_skipGap
    exact ⟨rest, by rw [← readValue_skipGap, opened]; exact readValue_object skipped (by decide) read, behind⟩

theorem readItems_spaced : ∀ (item : Datum) (items : List Datum) (fuel : Nat) {after : List (List Char)} {s : List Char},
    Spaced (itemTokens (item :: items) ++ after) s → (itemTokens (item :: items)).length < fuel →
      ∃ rest, readItems fuel s = (itemTrees (item :: items), none, rest) ∧ Spaced after rest
  | item, [], fuel + 1, after, s, spaced, enough => by
    simp only [itemTokens, List.append_assoc, List.length_append, List.length_singleton] at spaced enough
    obtain ⟨behind, read, spaced⟩ := readValue_spaced item fuel spaced (by omega)
    obtain ⟨rest, closed, spaced⟩ := spaced.exists_skipGap
    exact ⟨rest, readItems_last read closed, spaced⟩
  | item, next :: items, fuel + 1, after, s, spaced, enough => by
    rw [itemTokens_cons_cons] at spaced enough
    simp only [List.append_assoc, List.cons_append, List.length_append, List.length_cons] at spaced enough
    obtain ⟨behind, read, spaced⟩ := readValue_spaced item fuel spaced (by omega)
    obtain ⟨others, comma, spaced⟩ := spaced.exists_skipGap
    obtain ⟨rest, read', spaced⟩ := readItems_spaced next items fuel spaced (by omega)
    exact ⟨rest, readItems_next read comma read', spaced⟩

theorem readMembers_spaced : ∀ (field : String × Datum) (fields : List (String × Datum)) (fuel : Nat)
    {after : List (List Char)} {s : List Char}, Spaced (fieldTokens (field :: fields) ++ after) s →
      (fieldTokens (field :: fields)).length < fuel →
      ∃ rest, readMembers fuel (skipGap s) = (memberTrees (field :: fields), none, rest) ∧ Spaced after rest
  | (name, value), [], fuel + 1, after, s, spaced, enough => by
    simp only [fieldTokens, List.append_assoc, List.cons_append, List.length_append, List.length_cons] at spaced enough
    obtain ⟨colon, named, spaced⟩ := spaced.exists_skipGap
    obtain ⟨typed, separated, spaced⟩ := spaced.exists_skipGap
    obtain ⟨behind, read, spaced⟩ := readValue_spaced value fuel spaced (by omega)
    obtain ⟨rest, closed, spaced⟩ := spaced.exists_skipGap
    exact ⟨rest, readMembers_last name named separated read closed, spaced⟩
  | (name, value), next :: fields, fuel + 1, after, s, spaced, enough => by
    rw [fieldTokens_cons_cons] at spaced enough
    simp only [List.append_assoc, List.cons_append, List.length_append, List.length_cons] at spaced enough
    obtain ⟨colon, named, spaced⟩ := spaced.exists_skipGap
    obtain ⟨typed, separated, spaced⟩ := spaced.exists_skipGap
    obtain ⟨behind, read, spaced⟩ := readValue_spaced value fuel spaced (by omega)
    obtain ⟨others, comma, spaced⟩ := spaced.exists_skipGap
    obtain ⟨rest, read', spaced⟩ := readMembers_spaced next fields fuel spaced (by omega)
    exact ⟨rest, readMembers_next name named separated read comma read', spaced⟩

end

/-- However data are spaced, their text has the tree that they describe, and nothing stands behind it. -/
theorem ofText_spaced {datum : Datum} {text : String} (spaced : Spaced (tokens datum) text.toList) :
    Tree.ofText text = (treeOf datum, true) := by
  have few := spaced.length_le
  rw [← List.append_nil (tokens datum)] at spaced
  obtain ⟨rest, read, behind⟩ := readValue_spaced datum (2 * text.toList.length + 2) spaced (by omega)
  simp only [Tree.ofText, read, behind.skipGap_eq_nil, List.isEmpty_nil]

end SwaggerSdk.Json
