import SwaggerSdk.Generate
import SwaggerSdk.Proofs.Text.Cutting

/-!
# Comments in generated code

The comment above a function holds texts of the document, and the one at the top of a file holds the name of the SDK.
`comments_contained` says that these texts stay in their comments, whatever is in them: what ends a block comment occurs
first in its closing line, and no character that ends a line occurs in the comment at the top.
-/

namespace SwaggerSdk.Sdk

/-! ### The end of a block comment -/

/-- A text in which no block comment ends. -/
def IsUnclosed (s : List Char) : Prop := ¬ ['*', '/'] <:+: s

theorem isUnclosed_cons {c : Char} {s : List Char} :
    IsUnclosed (c :: s) ↔ ¬(c = '*' ∧ s.head? = some '/') ∧ IsUnclosed s := by
  have start : ['*', '/'] <+: c :: s ↔ c = '*' ∧ s.head? = some '/' := by
    rw [List.cons_prefix_cons]
    cases s with
    | nil => simp
    | cons d s => simp [List.cons_prefix_cons, eq_comm]
  rw [IsUnclosed, IsUnclosed, List.infix_cons_iff, start, not_or]

theorem isUnclosed_nil : IsUnclosed [] := by simp [IsUnclosed]

theorem isUnclosed_star : IsUnclosed [' ', '*'] :=
  isUnclosed_cons.mpr ⟨by simp, isUnclosed_cons.mpr ⟨by simp, isUnclosed_nil⟩⟩

/-- No comment ends across a character that is part of no ending. -/
theorem isUnclosed_append_cons {s t : List Char} {c : Char} (before : IsUnclosed s) (behind : IsUnclosed t)
    (noStar : c ≠ '*') (noSlash : c ≠ '/') : IsUnclosed (s ++ c :: t) := by
  induction s with
  | nil => exact isUnclosed_cons.mpr ⟨fun ends => noStar ends.1, behind⟩
  | cons d s ih =>
    obtain ⟨first, others⟩ := isUnclosed_cons.mp before
    refine isUnclosed_cons.mpr ⟨fun ends => first ⟨ends.1, ?_⟩, ih others⟩
    cases s with
    | nil => exact absurd (Option.some.inj ends.2) noSlash
    | cons e s => exact ends.2

theorem head?_escapeComment (s : List Char) : (escapeComment s).head? = s.head? := by
  fun_cases escapeComment s <;> rfl

theorem isUnclosed_escapeComment (s : List Char) : IsUnclosed (escapeComment s) := by
  fun_induction escapeComment s with
  | case1 => exact isUnclosed_nil
  | case2 s ih =>
    have slash : IsUnclosed ('/' :: escapeComment s) := isUnclosed_cons.mpr ⟨by simp, ih⟩
    have backslash : IsUnclosed ('\\' :: '/' :: escapeComment s) := isUnclosed_cons.mpr ⟨by simp, slash⟩
    exact isUnclosed_cons.mpr ⟨by simp, backslash⟩
  | case3 c s noEnd ih =>
    -- a star that is kept has no slash behind it, and escaping puts none there
    refine isUnclosed_cons.mpr ⟨?_, ih⟩
    rintro ⟨rfl, slash⟩
    rw [head?_escapeComment] at slash
    obtain ⟨rest, rfl⟩ := List.head?_eq_some_iff.mp slash
    exact noEnd rest rfl rfl

/-! ### The comment above a function -/

theorem toText_append (code code' : Lines) : (code ++ code').toText = code.toText ++ code'.toText := by
  simp [Lines.toText]

theorem toText_cons (line : String) (code : Lines) : Lines.toText (line :: code) = line ++ "\n" ++ code.toText := by
  simp [Lines.toText]

theorem toText_flatMap {α : Type} (items : List α) (code : α → Lines) :
    (Lines.toText (items.flatMap code)) = String.join (items.map fun item => (code item).toText) := by
  induction items with
  | nil => rfl
  | cons item items ih => rw [List.flatMap_cons, toText_append, ih, List.map_cons, String.join_cons]

/-- What stands in the comment above a function, between its opening and its closing line. -/
def commentText (endpoint : Endpoint) : String :=
  "\n" ++ Lines.toText ((docLines endpoint).map fun line => commentLine (String.ofList (escapeComment line.toList)))

theorem toText_docComment (endpoint : Endpoint) :
    (docComment endpoint).toText = "/**" ++ commentText endpoint ++ " */\n" := by
  have closing : Lines.toText [" */"] = " */\n" := by decide
  rw [docComment, comment, List.cons_append, toText_cons, toText_append, List.map_map, closing, commentText,
    String.append_assoc, String.append_assoc, String.append_assoc]
  rfl

theorem isUnclosed_commentLines (lines : List String) {rest : List Char} (behind : IsUnclosed rest) :
    IsUnclosed ((Lines.toText (lines.map fun line =>
      commentLine (String.ofList (escapeComment line.toList)))).toList ++ rest) := by
  induction lines with
  | nil => exact behind
  | cons line lines ih =>
    rw [List.map_cons, toText_cons, String.toList_append, String.toList_append, List.append_assoc, List.append_assoc]
    -- between two lines stands a line feed, and between the star of a line and its text a blank
    generalize (Lines.toText _).toList ++ rest = others at ih ⊢
    have ended : IsUnclosed (escapeComment line.toList ++ '\n' :: others) :=
      isUnclosed_append_cons (isUnclosed_escapeComment line.toList) ih (by decide) (by decide)
    unfold commentLine
    split
    · exact isUnclosed_append_cons isUnclosed_star ih (by decide) (by decide)
    · have started : IsUnclosed ([' ', '*'] ++ ' ' :: (escapeComment line.toList ++ '\n' :: others)) :=
        isUnclosed_append_cons isUnclosed_star ended (by decide) (by decide)
      rw [String.toList_append, String.toList_ofList, String.toList_ofList, List.append_assoc]
      exact started

theorem isUnclosed_commentText (endpoint : Endpoint) :
    IsUnclosed ('*' :: ((commentText endpoint).toList ++ [' '])) := by
  have closing : IsUnclosed [' '] := isUnclosed_cons.mpr ⟨by simp, isUnclosed_nil⟩
  have star : IsUnclosed ['*'] := isUnclosed_cons.mpr ⟨by simp, isUnclosed_nil⟩
  rw [commentText, String.toList_append, List.append_assoc]
  exact isUnclosed_append_cons star (isUnclosed_commentLines (docLines endpoint) closing) (c := '\n')
    (by decide) (by decide)

/-! ### The comment at the top of a file -/

/-- A character at which a line ends, and a comment that goes to the end of the line. -/
def isLineEnd (c : Char) : Bool := c == '\n' || c == '\r' || c == '\u2028' || c == '\u2029'

theorem isBlank_of_isLineEnd {c : Char} (ends : isLineEnd c) : Text.isBlank c := by
  simp only [isLineEnd, Bool.or_eq_true, beq_iff_eq] at ends
  rcases ends with ((rfl | rfl) | rfl) | rfl <;> decide

/-- What stands behind the slashes of the comment at the top. -/
def bannerText (config : Config) : String :=
  " Code generated by sdkgen for " ++ Text.oneLine config.sdkName ++ ". DO NOT EDIT."

theorem isLineEnd_of_mem_bannerText {config : Config} {c : Char} (inside : c ∈ (bannerText config).toList) :
    isLineEnd c = false := by
  have head : " Code generated by sdkgen for ".toList.any isLineEnd = false := by decide
  have tail : ". DO NOT EDIT.".toList.any isLineEnd = false := by decide
  simp only [List.any_eq_false, Bool.not_eq_true] at head tail
  unfold bannerText at inside
  rw [String.toList_append, String.toList_append, List.mem_append, List.mem_append] at inside
  rcases inside with (inside | inside) | inside
  · exact head c inside
  · refine Bool.eq_false_iff.mpr fun ends => ?_
    obtain rfl := (Text.isTidy_oneLine config.sdkName).spaces c inside (isBlank_of_isLineEnd ends)
    cases ends
  · exact tail c inside

theorem banner_eq (config : Config) : banner config = "//" ++ bannerText config := by
  have head : "// Code generated by sdkgen for " = "//" ++ " Code generated by sdkgen for " := by decide
  unfold banner bannerText
  rw [head]
  simp only [String.append_assoc]

theorem toText_opening (config : Config) : (opening config).toText = "//" ++ bannerText config ++ "\n\n" := by
  have ending : Lines.toText [""] = "\n" := by decide
  have feeds : "\n\n" = "\n" ++ "\n" := by decide
  rw [opening, toText_cons, ending, banner_eq, feeds, String.append_assoc, String.append_assoc]

/-! ### The whole files -/

def declaration (language : Language) (endpoint : Endpoint) : Lines :=
  functionHead language endpoint ++ Lines.indent (functionBody endpoint) ++ ["\x7d"]

theorem toText_function (language : Language) (endpoint : Endpoint) :
    (function language endpoint).toText =
      "\n/**" ++ commentText endpoint ++ " */\n" ++ (declaration language endpoint).toText := by
  rw [function, declaration, toText_append, toText_append, toText_append, toText_append, toText_docComment,
    toText_append, toText_append]
  simp only [String.append_assoc]
  rfl

/-- Texts that are put into comments stay there. -/
theorem comments_contained (language : Language) (config : Config) (model : Model) :
    render language config model .functions =
        "//" ++ bannerText config ++ "\n\n" ++ (functionImports language).toText ++
          String.join (model.endpoints.map fun endpoint =>
            "\n/**" ++ commentText endpoint ++ " */\n" ++ (declaration language endpoint).toText) ∧
      (∀ endpoint, ¬ ['*', '/'] <:+: '*' :: ((commentText endpoint).toList ++ [' '])) ∧
      (∀ piece, piece ≠ .manifest →
        ∃ rest, render language config model piece = "//" ++ bannerText config ++ "\n" ++ rest) ∧
      ∀ c ∈ (bannerText config).toList, c ≠ '\n' ∧ c ≠ '\r' ∧ c ≠ '\u2028' ∧ c ≠ '\u2029' := by
  refine ⟨?_, isUnclosed_commentText, fun piece isSource => ?_, fun c inside => ?_⟩
  · rw [render, functions, toText_append, toText_append, toText_opening, toText_flatMap]
    simp only [toText_function]
  · have opened (code : Lines) : ∃ rest, (opening config ++ code).toText = "//" ++ bannerText config ++ "\n" ++ rest := by
      refine ⟨"\n" ++ code.toText, ?_⟩
      rw [toText_append, toText_opening, String.append_assoc, String.append_assoc, String.append_assoc]
      rfl
    cases piece with
    | manifest => exact absurd rfl isSource
    | routes =>
      rw [render, routes, List.append_assoc]
      exact opened _
    | requests =>
      rw [render, requests]
      simp only [List.append_assoc]
      exact opened _
    | functions =>
      rw [render, functions, List.append_assoc]
      exact opened _
    | index =>
      rw [render, index]
      simp only [List.append_assoc]
      exact opened _
  · simpa [isLineEnd, and_assoc] using isLineEnd_of_mem_bannerText inside

end SwaggerSdk.Sdk
