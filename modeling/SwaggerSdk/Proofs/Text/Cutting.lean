import Mathlib.Data.List.Chain
import SwaggerSdk.Sdk.Source
import SwaggerSdk.Text.Blank
import SwaggerSdk.Text.Characters

/-!
# Cutting assembled texts

A text that was put together from pieces with separators between or behind them falls apart into these pieces again
(`split_intercalate`): lines that were ended by line feeds (`lines_toText`), fields with spaces between them
(`fields_intercalate`), and words that were listed with commas (`wordsIn_intercalate`).
-/

namespace SwaggerSdk.Text

variable {p : Char → Bool} {s t : List Char} {c : Char}

theorem split_cons_of_neg (plain : p c = false) {piece : List Char} {pieces : List (List Char)}
    (others : split p s = piece :: pieces) : split p (c :: s) = (c :: piece) :: pieces := by
  rw [split, others]
  simp [plain]

theorem split_append_cons (cut : p c) : split p (s ++ c :: t) = split p s ++ split p t := by
  induction s with
  | nil => simp [split, cut]
  | cons d s ih =>
    by_cases here : p d
    · simp [split, here, ih]
    · have plain : p d = false := Bool.not_eq_true _ ▸ here
      obtain ⟨piece, pieces, others⟩ := List.exists_cons_of_ne_nil (split_ne_nil p s)
      rw [others, List.cons_append] at ih
      rw [List.cons_append, split_cons_of_neg plain ih, split_cons_of_neg plain others, List.cons_append]

theorem split_plain (plain : ∀ c ∈ s, p c = false) : split p s = [s] := by
  induction s with
  | nil => rfl
  | cons d s ih => exact split_cons_of_neg (plain d List.mem_cons_self) (ih fun c h => plain c (List.mem_cons_of_mem d h))

theorem split_append (plain : ∀ c ∈ s, p c = false) (cut : p c) : split p (s ++ c :: t) = s :: split p t := by
  rw [split_append_cons cut, split_plain plain, List.singleton_append]

theorem split_intercalate {separator : Char} (cut : p separator) {pieces : List (List Char)} (nonempty : pieces ≠ [])
    (plain : ∀ piece ∈ pieces, ∀ c ∈ piece, p c = false) : split p ([separator].intercalate pieces) = pieces := by
  induction pieces with
  | nil => exact absurd rfl nonempty
  | cons piece pieces ih =>
    obtain ⟨first, others⟩ := List.forall_mem_cons.mp plain
    cases pieces with
    | nil => rw [List.intercalate_singleton, split_plain first]
    | cons next pieces =>
      rw [List.intercalate_cons_cons, List.append_assoc, List.singleton_append, split_append first cut,
        ih (List.cons_ne_nil next pieces) others]

theorem mem_of_mem_split {piece : List Char} (listed : piece ∈ split p s) (inside : c ∈ piece) :
    c ∈ s ∧ p c = false := by
  have kept : c ∈ (split p s).flatten := List.mem_flatten.mpr ⟨piece, listed, inside⟩
  rw [split_flatten] at kept
  simpa using List.mem_filter.mp kept

/-! ### Ends -/

theorem strip_of_solid (solid : ∀ c ∈ s, p c = false) : strip p s = s := by
  have kept : ∀ t : List Char, (∀ c ∈ t, p c = false) → t.dropWhile p = t := by
    intro t solid
    cases t with
    | nil => rfl
    | cons c t => exact List.dropWhile_cons_of_neg (by simp [solid c List.mem_cons_self])
  rw [strip, kept s solid, stripEnd, kept s.reverse fun c inside => solid c (List.mem_reverse.mp inside),
    List.reverse_reverse]

/-! ### Lines -/

theorem split_ended (texts : List (List Char)) (plain : ∀ text ∈ texts, '\n' ∉ text) :
    split (· == '\n') (texts.flatMap (· ++ ['\n'])) = texts ++ [[]] := by
  induction texts with
  | nil => rfl
  | cons text texts ih =>
    have first : ∀ c ∈ text, (c == '\n') = false := fun c h =>
      beq_false_of_ne fun same => plain text List.mem_cons_self (same ▸ h)
    rw [List.flatMap_cons, List.append_assoc, List.singleton_append, split_append first rfl,
      ih fun text h => plain text (List.mem_cons_of_mem _ h), List.cons_append]

theorem lines_ended (texts : List (List Char)) (plain : ∀ text ∈ texts, '\n' ∉ text) :
    lines (texts.flatMap (· ++ ['\n'])) = texts := by
  rw [lines, split_ended texts plain]
  simp

theorem lines_toText (code : Sdk.Lines) (plain : ∀ line ∈ code, '\n' ∉ line.toList) :
    lines code.toText.toList = code.map String.toList := by
  have spelled : code.toText.toList = (code.map String.toList).flatMap (· ++ ['\n']) := by
    rw [Sdk.Lines.toText, String.toList_join, List.flatMap_map, List.flatMap_map]
    exact List.flatMap_congr fun line _ => String.toList_append
  rw [spelled]
  refine lines_ended _ fun text listed => ?_
  obtain ⟨line, member, rfl⟩ := List.mem_map.mp listed
  exact plain line member

theorem mem_or_exists_of_mem_intercalate {separator : List Char} {pieces : List (List Char)}
    (inside : c ∈ separator.intercalate pieces) : c ∈ separator ∨ ∃ piece ∈ pieces, c ∈ piece := by
  induction pieces with
  | nil => cases inside
  | cons piece pieces ih =>
    cases pieces with
    | nil => exact .inr ⟨piece, List.mem_cons_self, by rwa [List.intercalate_singleton] at inside⟩
    | cons next pieces =>
      rw [List.intercalate_cons_cons] at inside
      rcases List.mem_append.mp inside with inside | inside
      · exact (List.mem_append.mp inside).symm.imp_right fun first => ⟨piece, List.mem_cons_self, first⟩
      · exact (ih inside).imp_right fun ⟨other, listed, member⟩ => ⟨other, List.mem_cons_of_mem _ listed, member⟩

/-! ### Fields -/

/-- What can stand between two blanks. -/
structure IsField (field : List Char) : Prop where
  nonempty : field ≠ []
  solid : ∀ c ∈ field, isBlank c = false

theorem isField_of_mem_fields {field : List Char} (listed : field ∈ fields s) : IsField field where
  nonempty := by simpa using (List.mem_filter.mp listed).2
  solid c inside := (mem_of_mem_split (List.mem_filter.mp listed).1 inside).2

theorem fields_append_cons (blank : isBlank c) : fields (s ++ c :: t) = fields s ++ fields t := by
  rw [fields, split_append_cons blank, List.filter_append, fields, fields]

theorem fields_intercalate {words : List (List Char)} (lawful : ∀ word ∈ words, IsField word) :
    fields ([' '].intercalate words) = words := by
  cases words with
  | nil => rfl
  | cons word words =>
    rw [fields, split_intercalate rfl (List.cons_ne_nil word words) fun other listed => (lawful other listed).solid]
    exact List.filter_eq_self.mpr fun other listed => by simpa using (lawful other listed).nonempty

theorem fields_oneLine (text : String) : fields (oneLine text).toList = fields text.toList := by
  rw [oneLine, String.toList_ofList]
  exact fields_intercalate fun _ => isField_of_mem_fields

/-! ### Collapsed texts -/

/-- A text whose blanks are spaces, of which no two stand together. -/
structure IsCollapsed (s : List Char) : Prop where
  spaces : ∀ c ∈ s, isBlank c → c = ' '
  apart : s.IsChain fun c d => ¬(isBlank c ∧ isBlank d)

/-- A collapsed text that neither starts nor ends with a space. -/
structure IsTidy (s : List Char) : Prop extends IsCollapsed s where
  first : ∀ c ∈ s.head?, isBlank c = false
  last : ∀ c ∈ s.getLast?, isBlank c = false

theorem isTidy_of_solid (solid : ∀ c ∈ s, isBlank c = false) : IsTidy s where
  spaces c inside blank := by
    rw [solid c inside] at blank
    cases blank
  apart := (List.pairwise_of_forall_mem_list fun c inside d _ both => by
    rw [solid c inside] at both
    cases both.1).isChain
  first c inside := solid c (List.mem_of_mem_head? inside)
  last c inside := solid c (List.mem_of_mem_getLast? inside)

/-- Behind a tidy text and a space, a collapsed text stays collapsed if it does not start with a space itself. -/
theorem IsTidy.join (left : IsTidy s) (right : IsCollapsed t) (first : ∀ c ∈ t.head?, isBlank c = false) :
    IsCollapsed (s ++ ' ' :: t) where
  spaces c inside blank := by
    rcases List.mem_append.mp inside with inside | inside
    · exact left.spaces c inside blank
    · rcases List.mem_cons.mp inside with rfl | inside
      · rfl
      · exact right.spaces c inside blank
  apart := by
    refine List.isChain_append.mpr ⟨left.apart, List.isChain_cons.mpr ⟨fun d head both => ?_, right.apart⟩, ?_⟩
    · rw [first d head] at both
      cases both.2
    · intro c ending d _ both
      rw [left.last c ending] at both
      cases both.1

theorem isTidy_intercalate {words : List (List Char)} (lawful : ∀ word ∈ words, IsField word) :
    IsTidy ([' '].intercalate words) := by
  induction words with
  | nil => exact isTidy_of_solid nofun
  | cons word words ih =>
    obtain ⟨field, fields⟩ := List.forall_mem_cons.mp lawful
    have first := isTidy_of_solid field.solid
    cases words with
    | nil => rwa [List.intercalate_singleton]
    | cons next words =>
      have others := ih fields
      have read := fields_intercalate fields
      rw [List.intercalate_cons_cons, List.append_assoc, List.singleton_append]
      obtain ⟨c, letters, rfl⟩ := List.exists_cons_of_ne_nil field.nonempty
      refine ⟨first.join others.toIsCollapsed others.first, first.first, fun d ending => ?_⟩
      -- the other words are not empty, so it is they who end the text
      cases spelled : [' '].intercalate (next :: words) with
      | nil =>
        rw [spelled] at read
        cases read
      | cons e rest =>
        rw [spelled, List.getLast?_append_cons, List.getLast?_cons_cons, ← spelled] at ending
        exact others.last d ending

theorem isTidy_oneLine (text : String) : IsTidy (oneLine text).toList := by
  rw [oneLine, String.toList_ofList]
  exact isTidy_intercalate fun _ => isField_of_mem_fields

/-! ### Words -/

def wordsIn (s : List Char) : List (List Char) := (split (!isWordChar ·) s).filter (!·.isEmpty)

theorem wordsIn_cons (gap : isWordChar c = false) : wordsIn (c :: s) = wordsIn s := by
  simp [wordsIn, split, gap]

theorem wordsIn_append {word : List Char} (nonempty : word ≠ []) (letters : ∀ c ∈ word, isWordChar c)
    (gap : isWordChar c = false) : wordsIn (word ++ c :: s) = word :: wordsIn s := by
  rw [wordsIn, split_append (fun c h => by simp [letters c h]) (by simp [gap])]
  simp [nonempty, wordsIn]

theorem wordsIn_intercalate (words : List (List Char)) (nonempty : ∀ word ∈ words, word ≠ [])
    (letters : ∀ word ∈ words, ∀ c ∈ word, isWordChar c) :
    wordsIn ([',', ' '].intercalate words ++ [' ']) = words := by
  induction words with
  | nil => decide
  | cons word words ih =>
    have others := ih (fun word h => nonempty word (List.mem_cons_of_mem _ h))
      (fun word h => letters word (List.mem_cons_of_mem _ h))
    have first := nonempty word List.mem_cons_self
    have spelled := letters word List.mem_cons_self
    cases words with
    | nil =>
      rw [List.intercalate_singleton, wordsIn_append first spelled (by decide)]
      rfl
    | cons next words =>
      rw [List.intercalate_cons_cons, List.append_assoc, List.append_assoc, List.cons_append,
        wordsIn_append first spelled (by decide), List.cons_append, List.nil_append, wordsIn_cons (by decide), others]

end SwaggerSdk.Text
