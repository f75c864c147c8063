import Mathlib.Data.List.DropRight
import SwaggerSdk.Proofs.Naming.KeptIds

/-!
# Names that come from routes

Where no id is given, the name of an operation starts with its method, and whatever the path adds to it starts with a
capital or a digit. So the method can be read off the name: it is the beginning that is in lower case. Operations of
different methods never want the same name for their routes (`derived_candidates_apart`).
-/

namespace SwaggerSdk

namespace Text

variable {p : Char → Bool} {s t : List Char}

theorem stripEnd_eq_rdropWhile (p : Char → Bool) (s : List Char) : stripEnd p s = s.rdropWhile p := rfl

theorem stripEnd_append (solid : ∀ c ∈ s, p c = false) : stripEnd p (s ++ t) = s ++ stripEnd p t := by
  simp only [stripEnd_eq_rdropWhile]
  induction t using List.reverseRecOn with
  | nil =>
    have kept : s.rdropWhile p = s :=
      List.rdropWhile_eq_self_iff.mpr fun nonempty => by simp [solid _ (List.getLast_mem nonempty)]
    rw [List.append_nil, kept, List.rdropWhile_nil, List.append_nil]
  | append_singleton t c ih =>
    rw [← List.append_assoc]
    by_cases dropped : p c
    · rw [List.rdropWhile_concat_pos _ _ _ dropped, List.rdropWhile_concat_pos _ _ _ dropped, ih]
    · rw [List.rdropWhile_concat_neg _ _ _ dropped, List.rdropWhile_concat_neg _ _ _ dropped, List.append_assoc]

/-- Behind characters that are kept, a text can only be stripped at its end. -/
theorem strip_append (nonempty : s ≠ []) (solid : ∀ c ∈ s, p c = false) : strip p (s ++ t) = s ++ stripEnd p t := by
  obtain ⟨c, others, rfl⟩ := List.exists_cons_of_ne_nil nonempty
  have first : ¬p c = true := by simp [solid c List.mem_cons_self]
  rw [strip, List.cons_append, List.dropWhile_cons_of_neg first, ← List.cons_append, stripEnd_append solid]

theorem trim_of_blank (blank : ∀ c ∈ s, isBlank c = true) : trim s = [] := by
  have dropped : s.dropWhile isBlank = [] := List.dropWhile_eq_nil_iff.mpr blank
  rw [trim, strip, dropped]
  rfl

end Text

namespace Naming

/-! ### The first word -/

/-- A text that does not go on with the word before it. -/
def Separates (s : List Char) : Prop := ∀ c ∈ s.head?, c = '_'

/-- A text that goes on with no letter in lower case. -/
def Rises (s : List Char) : Prop := ∀ c ∈ s.head?, c.isLower = false

theorem Separates.stripEnd {s : List Char} (separates : Separates s) (p : Char → Bool) :
    Separates (Text.stripEnd p s) := by
  intro c first
  obtain ⟨rest, whole⟩ : s.rdropWhile p <+: s := List.rdropWhile_prefix p s
  refine separates c ?_
  rw [← whole, List.head?_append, ← Text.stripEnd_eq_rdropWhile, Option.mem_def.mp first]
  rfl

section Word

variable {word s : List Char} (lower : ∀ c ∈ word, c.isLower = true)

include lower

theorem isAlphanum_of_lower : ∀ c ∈ word, c.isAlphanum = true := by
  intro c inside
  simp [Char.isAlphanum, Char.isAlpha, lower c inside]

/-- Turning a text into identifier characters leaves its first word as it is. -/
theorem sanitizeChars_append (nonempty : word ≠ []) (separates : Separates s) :
    ∃ rest, sanitizeChars (word ++ s) = word ++ rest ∧ Separates rest := by
  have letters := isAlphanum_of_lower lower
  have trimmed : Text.trim (word ++ s) = word ++ Text.stripEnd Text.isBlank s :=
    Text.strip_append nonempty fun c inside => isBlank_of_isAlphanum (letters c inside)
  have kept : (word.map fun c => if Text.isWordChar c then c else '_') = word :=
    (List.map_congr_left fun c inside => if_pos (by simp [Text.isWordChar, letters c inside])).trans (List.map_id' _)
  have solid : ∀ c ∈ word, (c == '_') = false := by
    intro c inside
    rw [beq_eq_false_iff_ne]
    rintro rfl
    exact absurd (letters _ inside) (by decide)
  -- what is no part of a word becomes an underscore, and that is none either
  have replaced : Separates ((Text.stripEnd Text.isBlank s).map fun c => if Text.isWordChar c then c else '_') := by
    intro c first
    rw [List.head?_map, Option.mem_map] at first
    obtain ⟨d, here, rfl⟩ := first
    rw [separates.stripEnd _ d here]
    rfl
  refine ⟨_, ?_, replaced.stripEnd (· == '_')⟩
  simp only [sanitizeChars, trimmed, List.map_append, kept, Text.strip_append nonempty solid]
  exact if_neg (by simp [nonempty])

theorem scan_lower_append {before : Char} (beforeLetter : before.isAlphanum = true) (s : List Char) :
    ∃ last, scan (some before) true false (word ++ s) = word ++ scan (some last) true false s := by
  induction word generalizing before with
  | nil => exact ⟨before, rfl⟩
  | cons c word ih =>
    obtain ⟨small, others⟩ := List.forall_mem_cons.mp lower
    have letter := isAlphanum_of_lower lower c List.mem_cons_self
    have same : c.toLower = c := (toLower_eq_self_iff c).mpr (isUpper_of_isLower small)
    have inWord : parts (some before) c = false := by
      rw [parts_of_isAlphanum beforeLetter letter, isUpper_of_isLower small, Bool.and_false]
    obtain ⟨last, rest⟩ := ih others letter
    refine ⟨last, ?_⟩
    rw [List.cons_append, scan, inWord, if_pos letter, spaced_of_isAlphanum letter, rest, same]
    rfl

omit lower in
theorem rises_scan (before : Option Char) (s : List Char) : Rises (scan before true true s) := by
  induction s generalizing before with
  | nil => nofun
  | cons c s ih =>
    rw [scan, Bool.true_or]
    split
    · intro first here
      obtain rfl := Option.some.inj here
      exact Char.isLower_toUpper_eq_false c
    · exact ih _

/-- Camel case keeps a first word in lower case, and what follows does not go on with it. -/
theorem camelCaseChars_append (nonempty : word ≠ []) (separates : Separates s) :
    ∃ rest, camelCaseChars (word ++ s) = word ++ rest ∧ Rises rest := by
  obtain ⟨c, word, rfl⟩ := List.exists_cons_of_ne_nil nonempty
  obtain ⟨small, others⟩ := List.forall_mem_cons.mp lower
  have letter := isAlphanum_of_lower lower c List.mem_cons_self
  obtain ⟨last, scanned⟩ := scan_lower_append others letter s
  have same : c.toLower = c := (toLower_eq_self_iff c).mpr (isUpper_of_isLower small)
  have written : scan none false true (c :: word ++ s) = c :: word ++ scan (some last) true false s := by
    rw [List.cons_append, scan, if_pos letter, spaced_of_isAlphanum letter, scanned, Bool.false_and,
      if_neg Bool.false_ne_true, same]
    rfl
  have notDigit : ¬c.isDigit = true := by simp [isDigit_of_isAlpha, Char.isAlpha, small]
  refine ⟨scan (some last) true false s, ?_, ?_⟩
  · rw [camelCaseChars_eq_scan, written]
    exact if_neg notDigit
  · cases s with
    | nil =>
      intro d found
      cases found
    | cons d s =>
      -- the underscore opens a word, so a letter behind it is written as a capital
      obtain rfl := separates d rfl
      exact rises_scan (some ' ') s

end Word

/-! ### Names without an id -/

/-- An id that gives no name: it is absent or blank. -/
def IsSilent (id? : Option String) : Prop := ∀ id ∈ id?, id.toList.all Text.isBlank = true

theorem explicitId?_of_isSilent {id? : Option String} (silent : IsSilent id?) : explicitId? id? = none := by
  cases id? with
  | none => rfl
  | some id =>
    rw [explicitId?, Option.map_some, Text.trim_of_blank (List.all_eq_true.mp (silent id rfl))]
    rfl

theorem lowerName_letters (method : Method) : method.lowerName ≠ [] ∧ ∀ c ∈ method.lowerName, c.isLower = true := by
  have each : ∀ method ∈ Method.all, method.lowerName ≠ [] ∧ method.lowerName.all Char.isLower = true := by decide
  exact (each method method.mem_all).imp_right List.all_eq_true.mp

theorem lowerName_injective : Function.Injective Method.lowerName := by
  have distinct : ∀ method ∈ Method.all, ∀ method' ∈ Method.all, method.lowerName = method'.lowerName →
      method = method' := by decide
  exact fun method method' => distinct method method.mem_all method' method'.mem_all

theorem routeNameChars_eq (method : Method) (path : List Char) :
    ∃ rest, routeNameChars method path = method.lowerName ++ rest ∧ Separates rest := by
  have joined : routeNameChars method path = ['_'].intercalate (method.lowerName ::
      ((Text.split (· == '/') path).filter (!·.isEmpty)).flatMap segmentTokens) := rfl
  rw [joined]
  generalize ((Text.split (· == '/') path).filter (!·.isEmpty)).flatMap segmentTokens = tokens
  cases tokens with
  | nil => exact ⟨[], by rw [List.intercalate_singleton, List.append_nil], nofun⟩
  | cons token tokens =>
    refine ⟨'_' :: ['_'].intercalate (token :: tokens), ?_, fun c first => (Option.some.inj first).symm⟩
    rw [List.intercalate_cons_cons, List.append_assoc]
    rfl

theorem avoidReserved_append (word : List Char) {s : List Char} (rises : Rises s) :
    ∃ rest, avoidReserved (word ++ s) = word ++ rest ∧ Rises rest := by
  unfold avoidReserved
  split
  · refine ⟨s ++ ['O', 'p'], List.append_assoc _ _ _, fun c first => ?_⟩
    cases s with
    | nil =>
      obtain rfl := Option.some.inj first
      decide
    | cons d s => exact rises c first
  · exact ⟨s, rfl, rises⟩

theorem candidate_of_isSilent (route : Route) {id? : Option String} (silent : IsSilent id?) :
    ∃ rest, (candidate route id?).toList = route.method.lowerName ++ rest ∧ Rises rest := by
  obtain ⟨nonempty, lower⟩ := lowerName_letters route.method
  obtain ⟨added, derived, separates⟩ := routeNameChars_eq route.method route.path.toList
  have raw : rawNameChars route.method route.path.toList id? = route.method.lowerName ++ added := by
    rw [rawNameChars, explicitId?_of_isSilent silent, Option.getD_none, derived]
  obtain ⟨kept, sanitized, separates⟩ := sanitizeChars_append lower nonempty separates
  obtain ⟨cased, camel, rises⟩ := camelCaseChars_append lower nonempty separates
  obtain ⟨rest, written, rises⟩ := avoidReserved_append route.method.lowerName rises
  refine ⟨rest, ?_, rises⟩
  rw [candidate, String.toList_ofList, ← written, ← camel, ← sanitized, ← raw, candidateChars]
  refine declarableChars_of_ne_nil ?_
  rw [raw, sanitized, camel]
  simp [nonempty]

theorem takeWhile_candidate (route : Route) {id? : Option String} (silent : IsSilent id?) :
    (candidate route id?).toList.takeWhile Char.isLower = route.method.lowerName := by
  obtain ⟨rest, spelled, rises⟩ := candidate_of_isSilent route silent
  have ends : rest.takeWhile Char.isLower = [] := by
    cases rest with
    | nil => rfl
    | cons c rest => exact List.takeWhile_cons_of_neg (by simp [rises c rfl])
  rw [spelled, List.takeWhile_append_of_pos (lowerName_letters route.method).2, ends, List.append_nil]

/-- Names that come from routes start with the method, so with different methods they differ. -/
theorem derived_candidates_apart {route route' : Route} {id? id?' : Option String} (silent : IsSilent id?)
    (silent' : IsSilent id?') :
    route.method.lowerName <+: (candidate route id?).toList ∧
    route'.method.lowerName <+: (candidate route' id?').toList ∧
    (route.method ≠ route'.method → candidate route id? ≠ candidate route' id?') := by
  have method := takeWhile_candidate route silent
  have method' := takeWhile_candidate route' silent'
  refine ⟨method ▸ List.takeWhile_prefix _, method' ▸ List.takeWhile_prefix _, fun different same => different ?_⟩
  refine lowerName_injective ?_
  rw [← method, ← method', same]

/-- Within one method, names of different paths may meet: a reserved word gets the end that a segment can give too. -/
example : candidate ⟨.delete, "/"⟩ none = candidate ⟨.delete, "/op"⟩ (some " \t") := by decide +kernel

/-- A reserved word, and a path with a placeholder, a leading digit and a letter beyond ASCII. -/
theorem derived_candidates_apart_delete :
    IsSilent (some "\u2003\n") ∧ IsSilent none ∧
    "delete".toList <+: (candidate ⟨.delete, "//"⟩ (some "\u2003\n")).toList ∧
    "patch".toList <+: (candidate ⟨.patch, "/\x7b2é\x7d//op_"⟩ none).toList ∧
    candidate ⟨.delete, "//"⟩ (some "\u2003\n") ≠ candidate ⟨.patch, "/\x7b2é\x7d//op_"⟩ none := by
  have silent : IsSilent (some "\u2003\n") := by
    intro id here
    obtain rfl := Option.some.inj here
    decide
  have absent : IsSilent none := nofun
  obtain ⟨first, second, apart⟩ :=
    @derived_candidates_apart ⟨.delete, "//"⟩ ⟨.patch, "/\x7b2é\x7d//op_"⟩ _ _ silent absent
  exact ⟨silent, absent, first, second, apart (by decide)⟩

end Naming

end SwaggerSdk
