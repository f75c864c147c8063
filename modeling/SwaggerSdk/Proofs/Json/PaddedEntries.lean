import SwaggerSdk.Proofs.Json.Padding

/-!
# Entries and what is added to them

An entry of a list of parameters is read as a typed value first and then judged. What its schema has no use for adds a
member to the typed value that neither a reference nor a parameter takes notice of.
-/

namespace SwaggerSdk

/-! ### Members of typed values -/

namespace Value

section Records

variable {ρ : Type} {shape : Shape Option Value ρ}

def keyField (shape : Shape Option Value ρ) : Value → Option (Option (Field Option Value ρ))
  | text name => some (shape.field? name)
  | unsigned index => some shape.fields[index]?
  | _ => none

theorem record?_map (members : List (Value × Value)) :
    record? shape (.map members) =
      Shape.ofMembers (keyField shape) (fun _ => some ()) (fun _ => none) [] shape.blank members := rfl

theorem mem_of_keyField ⦃key : Value⦄ ⦃field : Field Option Value ρ⦄ (known : keyField shape key = some (some field)) :
    field ∈ shape.fields := by
  cases key with
  | text => exact List.mem_of_find?_eq_some (Option.some.inj known)
  | unsigned => exact List.mem_of_getElem? (Option.some.inj known)
  | _ => cases known

theorem record?_insert_pass {name : String} (unknown : shape.field? name = none) (value : Value)
    (before after : List (Value × Value)) :
    record? shape (.map (before ++ (.text name, value) :: after)) = record? shape (.map (before ++ after)) := by
  rw [record?_map, record?_map, Shape.ofMembers_insert_pass]
  · exact congrArg some unknown
  · rfl

end Records

theorem reference?_insert {name : String} (other : name ≠ "$ref") (value : Value) (before after : List (Value × Value)) :
    reference? (.map (before ++ (.text name, value) :: after)) = reference? (.map (before ++ after)) := by
  have unknown : referenceShape.field? name = none := by
    simpa [Shape.field?, referenceShape] using Ne.symm other
  rw [reference?, reference?, record?_insert_pass unknown]

/-- A parameter stays what it is if a null member is added for a field that it lacks. -/
theorem parameter?_insert_null {name : String} {part : Json.Part Json.Schema}
    (known : Json.Part.find? Json.Schema.parameterParts name = some part) (isOptional : part.isOptional)
    {before after : List (Value × Value)} (absent : ∀ pair ∈ before ++ after, ∃ other, pair.1 = .text other ∧ other ≠ name)
    {parameter : Parameter} (made : parameter? (.map (before ++ after)) = some parameter) :
    parameter? (.map (before ++ (.text name, .null) :: after)) = some parameter := by
  have field : ∃ field update, (Parameter.shape text? flag? (optional? text?)).field? name = some field ∧
      field.read .null = some update ∧ update .blank = .blank := by
    obtain rfl : part.name = name := by simpa using List.find?_some known
    have listed := List.mem_of_find?_eq_some known
    simp only [Json.Schema.parameterParts, List.mem_cons, List.not_mem_nil, or_false] at listed
    -- of the five fields the third and the last one may be null
    rcases listed with rfl | rfl | rfl | rfl | rfl
    · cases isOptional
    · cases isOptional
    · exact ⟨_, _, rfl, rfl, rfl⟩
    · cases isOptional
    · exact ⟨_, _, rfl, rfl, rfl⟩
  obtain ⟨field, update, here, null, idle⟩ := field
  rw [parameter?, record?_map] at made ⊢
  have found : keyField (Parameter.shape text? flag? (optional? text?)) (.text name) = some (some field) :=
    congrArg some here
  refine Shape.ofMembers_insert_absent (Parameter.fields_commute _ _ _) mem_of_keyField
    (fun _ accepted => by cases accepted) found null idle (fun pair listed field' known' same => ?_) made
  obtain ⟨other, named, different⟩ := absent pair listed
  rw [named] at known'
  refine different ?_
  rw [← Shape.name_of_field? (Option.some.inj known'), same, Shape.name_of_field? here]

theorem parameter?_insert_pass {name : String} (unknown : Json.Part.find? Json.Schema.parameterParts name = none)
    (value : Value) (before after : List (Value × Value)) :
    parameter? (.map (before ++ (.text name, value) :: after)) = parameter? (.map (before ++ after)) := by
  refine record?_insert_pass ?_ value before after
  simpa [Json.Part.find?, Json.Schema.parameterParts, Shape.field?, Parameter.shape, Field.plain, Field.nullable]
    using unknown

end Value

namespace Entry

variable {name : String} {before after : List (Value × Value)} {entry : Entry}

theorem ofValue?_insert_null {part : Json.Part Json.Schema}
    (known : Json.Part.find? Json.Schema.parameterParts name = some part) (isOptional : part.isOptional)
    (absent : ∀ pair ∈ before ++ after, ∃ other, pair.1 = .text other ∧ other ≠ name)
    (judged : ofValue? (.map (before ++ after)) = some entry) :
    ofValue? (.map (before ++ (.text name, .null) :: after)) = some entry := by
  have other : name ≠ "$ref" := by
    rintro rfl
    cases known
  rw [ofValue?, Value.reference?_insert other]
  rw [ofValue?] at judged
  split
  case h_1 target isReference => rwa [isReference] at judged
  case h_2 noReference =>
    rw [noReference] at judged
    obtain ⟨parameter, made, rfl⟩ := Option.map_eq_some_iff.mp judged
    rw [Value.parameter?_insert_null known isOptional absent made, Option.map_some]

theorem ofValue?_insert_unknown (other : name ≠ "$ref")
    (unknown : Json.Part.find? Json.Schema.parameterParts name = none ∨ ∃ target, entry = .reference target)
    (value : Value) (judged : ofValue? (.map (before ++ after)) = some entry) :
    ofValue? (.map (before ++ (.text name, value) :: after)) = some entry := by
  rw [ofValue?, Value.reference?_insert other]
  rw [ofValue?] at judged
  split
  case h_1 target isReference => rwa [isReference] at judged
  case h_2 noReference =>
    rw [noReference] at judged
    rcases unknown with unknown | ⟨target, rfl⟩
    · rwa [Value.parameter?_insert_pass unknown]
    · obtain ⟨parameter, -, impossible⟩ := Option.map_eq_some_iff.mp judged
      cases impossible

end Entry

namespace Json

theorem typedMember_eq {depth : Nat} {key : Lexeme} {tree : Tree} {name : String} {value : Value}
    (named : key.read = pure name) (reads : readTyped depth tree = pure value) :
    typedMember depth (key, tree) = pure (.text name, value) := by
  rw [typedMember, named, pure_bind, reads, pure_bind]

theorem key_of_typedMembers {depth : Nat} {members : List (Lexeme × Tree)} {values : List (Value × Value)}
    (each : members.mapM (typedMember depth) = pure values) {name : String} (absent : name ∉ Tree.keyNames members) :
    ∀ pair ∈ values, ∃ other, pair.1 = .text other ∧ other ≠ name := by
  intro pair listed
  obtain ⟨member, present, made⟩ := exists_of_mem_mapM each listed
  obtain ⟨other, named, made⟩ := Peels.bind_eq_pure made
  obtain ⟨value, -, made⟩ := Peels.bind_eq_pure made
  obtain rfl := Peels.pure_inj made
  exact ⟨other, rfl, fun same => absent (mem_keyNames present (same ▸ named))⟩

theorem entry_overlooks : Overlooks .entry dataFormat.entry := by
  intro depth tree tree' padded entry reads
  obtain ⟨value, typed, judged⟩ := entry_eq_pure_iff.mp reads
  cases padded with
  | absentInEntry named known isOptional absent =>
    obtain ⟨inner, values, deep, each, complete, rfl⟩ := readTyped_object_eq_pure_iff.mp typed
    have null : readTyped inner .null = pure .null := rfl
    obtain ⟨first, others, each', rfl⟩ := mapM_insert each (typedMember_eq named null)
    refine entry_eq_pure_iff.mpr ⟨_, readTyped_object_eq_pure_iff.mpr ⟨inner, _, deep, each', complete, rfl⟩, ?_⟩
    exact Entry.ofValue?_insert_null known isOptional (key_of_typedMembers each absent) judged
  | unknownInEntry named other unknown valid fits =>
    obtain ⟨inner, values, deep, each, complete, rfl⟩ := readTyped_object_eq_pure_iff.mp typed
    obtain rfl := eq_of_inside deep
    obtain ⟨added, typed'⟩ := exists_readTyped valid (Nat.lt_sub_of_add_lt fits)
    obtain ⟨first, others, each', rfl⟩ := mapM_insert each (typedMember_eq named typed')
    refine entry_eq_pure_iff.mpr ⟨_, readTyped_object_eq_pure_iff.mpr ⟨_, _, deep, each', complete, rfl⟩, ?_⟩
    refine Entry.ofValue?_insert_unknown other (unknown.imp_right fun ⟨target, isReference⟩ => ⟨target, ?_⟩) added judged
    exact Peels.pure_inj (reads.symm.trans isReference)

end Json

end SwaggerSdk
