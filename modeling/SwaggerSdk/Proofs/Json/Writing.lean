import SwaggerSdk.Json.Writer
import SwaggerSdk.Proofs.Json.Spacing

/-!
# What is written is read back

Both layouts put the tokens of data one behind the other. The compact one leaves no gaps, and the indented one starts a
line in front of every item and every field. So what is written in either of them is read back.
-/

namespace SwaggerSdk.Json

variable {after : List (List Char)} {s : List Char}

theorem spaced_quoteChars (text : List Char) (spaced : Spaced after s) :
    Spaced (quoteChars text :: after) (quoteChars text ++ s) := .token rfl spaced

theorem spaced_flagChars (value : Bool) (spaced : Spaced after s) :
    Spaced (Datum.flagChars value :: after) (Datum.flagChars value ++ s) := by
  cases value <;> exact .token rfl spaced

/-! ### The compact layout -/

mutual

theorem spaced_compactChars : ∀ (datum : Datum) {after : List (List Char)} {s : List Char}, Spaced after s →
    Spaced (tokens datum ++ after) (compactChars datum ++ s)
  | .flag value, _, _, spaced => spaced_flagChars value spaced
  | .text value, _, _, spaced => spaced_quoteChars value.toList spaced
  | .list items, after, s, spaced => by
    have closing : Spaced ([']'] :: after) (']' :: s) := .token rfl spaced
    rw [tokens, compactChars, List.cons_append, List.cons_append, List.append_assoc]
    exact .token rfl (spaced_compactItems items closing)
  | .record fields, after, s, spaced => by
    have closing : Spaced (['\x7d'] :: after) ('\x7d' :: s) := .token rfl spaced
    rw [tokens, compactChars, List.cons_append, List.cons_append, List.append_assoc]
    exact .token rfl (spaced_compactFields fields closing)

theorem spaced_compactItems : ∀ (items : List Datum) {after : List (List Char)} {s : List Char},
    Spaced ([']'] :: after) s → Spaced (itemTokens items ++ after) (compactItems items ++ s)
  | [], _, _, closing => closing
  | [item], after, s, closing => by
    rw [itemTokens, compactItems, List.append_assoc]
    exact spaced_compactChars item closing
  | item :: next :: items, after, s, closing => by
    have others : Spaced ([','] :: (itemTokens (next :: items) ++ after)) (',' :: (compactItems (next :: items) ++ s)) :=
      .token rfl (spaced_compactItems (next :: items) closing)
    rw [itemTokens_cons_cons, compactItems, List.append_assoc, List.append_assoc]
    · exact spaced_compactChars item others
    · exact nofun

theorem spaced_compactFields : ∀ (fields : List (String × Datum)) {after : List (List Char)} {s : List Char},
    Spaced (['\x7d'] :: after) s → Spaced (fieldTokens fields ++ after) (compactFields fields ++ s)
  | [], _, _, closing => closing
  | [(name, value)], after, s, closing => by
    rw [fieldTokens, compactFields, List.append_assoc, List.cons_append, List.cons_append, List.append_assoc]
    exact spaced_quoteChars name.toList (.token rfl (spaced_compactChars value closing))
  | (name, value) :: next :: fields, after, s, closing => by
    have others : Spaced ([','] :: (fieldTokens (next :: fields) ++ after)) (',' :: (compactFields (next :: fields) ++ s)) :=
      .token rfl (spaced_compactFields (next :: fields) closing)
    rw [fieldTokens_cons_cons, compactFields, List.append_assoc, List.append_assoc, List.cons_append, List.cons_append,
      List.append_assoc]
    · exact spaced_quoteChars name.toList (.token rfl (spaced_compactChars value others))
    · exact nofun

end

/-- A written text has the tree of the data, and nothing stands behind it. -/
theorem ofText_write (datum : Datum) : Tree.ofText (write datum) = (treeOf datum, true) := by
  have spaced := spaced_compactChars datum .nil
  rw [List.append_nil, List.append_nil] at spaced
  exact ofText_spaced (by rwa [write, String.toList_ofList])

/-! ### The indented layout -/

theorem spaced_lineStart (depth : Nat) (spaced : Spaced after s) : Spaced after (lineStart depth ++ s) := by
  refine spaced.gaps fun c inside => ?_
  rcases List.mem_cons.mp inside with rfl | inside
  · rfl
  · rw [List.eq_of_mem_replicate inside]
    rfl

mutual

theorem spaced_indentedChars : ∀ (depth : Nat) (datum : Datum) {after : List (List Char)} {s : List Char},
    Spaced after s → Spaced (tokens datum ++ after) (indentedChars depth datum ++ s)
  | _, .flag value, _, _, spaced => spaced_flagChars value spaced
  | _, .text value, _, _, spaced => spaced_quoteChars value.toList spaced
  | _, .list [], _, _, spaced => .token rfl (.token rfl spaced)
  | depth, .list (item :: items), after, s, spaced => by
    have closing : Spaced ([']'] :: after) (lineStart depth ++ ']' :: s) := spaced_lineStart depth (.token rfl spaced)
    rw [tokens, indentedChars, List.cons_append, List.cons_append, List.append_assoc, List.append_assoc]
    exact .token rfl (spaced_indentedItems (depth + 1) (item :: items) closing)
  | _, .record [], _, _, spaced => .token rfl (.token rfl spaced)
  | depth, .record (field :: fields), after, s, spaced => by
    have closing : Spaced (['\x7d'] :: after) (lineStart depth ++ '\x7d' :: s) :=
      spaced_lineStart depth (.token rfl spaced)
    rw [tokens, indentedChars, List.cons_append, List.cons_append, List.append_assoc, List.append_assoc]
    exact .token rfl (spaced_indentedFields (depth + 1) (field :: fields) closing)

theorem spaced_indentedItems : ∀ (depth : Nat) (items : List Datum) {after : List (List Char)} {s : List Char},
    Spaced ([']'] :: after) s → Spaced (itemTokens items ++ after) (indentedItems depth items ++ s)
  | _, [], _, _, closing => closing
  | depth, [item], after, s, closing => by
    rw [itemTokens, indentedItems, List.append_assoc, List.append_assoc]
    exact spaced_lineStart depth (spaced_indentedChars depth item closing)
  | depth, item :: next :: items, after, s, closing => by
    have others : Spaced ([','] :: (itemTokens (next :: items) ++ after))
        (',' :: (indentedItems depth (next :: items) ++ s)) :=
      .token rfl (spaced_indentedItems depth (next :: items) closing)
    rw [itemTokens_cons_cons, indentedItems, List.append_assoc, List.append_assoc, List.append_assoc]
    · exact spaced_lineStart depth (spaced_indentedChars depth item others)
    · exact nofun

theorem spaced_indentedFields : ∀ (depth : Nat) (fields : List (String × Datum)) {after : List (List Char)}
    {s : List Char}, Spaced (['\x7d'] :: after) s → Spaced (fieldTokens fields ++ after) (indentedFields depth fields ++ s)
  | _, [], _, _, closing => closing
  | depth, [(name, value)], after, s, closing => by
    have typed : Spaced (tokens value ++ ['\x7d'] :: after) (' ' :: (indentedChars depth value ++ s)) :=
      .gap rfl (spaced_indentedChars depth value closing)
    rw [fieldTokens, indentedFields]
    simp only [List.append_assoc, List.cons_append, List.nil_append]
    exact spaced_lineStart depth (spaced_quoteChars name.toList (.token rfl typed))
  | depth, (name, value) :: next :: fields, after, s, closing => by
    have others : Spaced ([','] :: (fieldTokens (next :: fields) ++ after))
        (',' :: (indentedFields depth (next :: fields) ++ s)) :=
      .token rfl (spaced_indentedFields depth (next :: fields) closing)
    have typed : Spaced (tokens value ++ [','] :: (fieldTokens (next :: fields) ++ after))
        (' ' :: (indentedChars depth value ++ ',' :: (indentedFields depth (next :: fields) ++ s))) :=
      .gap rfl (spaced_indentedChars depth value others)
    rw [fieldTokens_cons_cons, indentedFields]
    · simp only [List.append_assoc, List.cons_append, List.nil_append]
      exact spaced_lineStart depth (spaced_quoteChars name.toList (.token rfl typed))
    · exact nofun

end

theorem ofText_writeIndented (datum : Datum) {gap : String} (blank : ∀ c ∈ gap.toList, isGap c) :
    Tree.ofText (writeIndented datum ++ gap) = (treeOf datum, true) := by
  have behind : Spaced [] gap.toList := by
    rw [← List.append_nil gap.toList]
    exact Spaced.nil.gaps blank
  have spaced := spaced_indentedChars 0 datum behind
  rw [List.append_nil] at spaced
  exact ofText_spaced (by rwa [writeIndented, String.toList_append, String.toList_ofList])

end SwaggerSdk.Json
