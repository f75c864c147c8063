import Mathlib.Data.List.Forall2
import SwaggerSdk.Proofs.Document.Steady
import SwaggerSdk.Proofs.Json.Reordering
import SwaggerSdk.Proofs.Json.Validity
import SwaggerSdk.Proofs.Tables

/-!
# Padding: what may stand in a tree without being read

A schema says what the places of a document hold. `Padded` adds one thing to a tree that its schema has no use for: a
null item of a list, a null member of a table, a null member for an absent field, or a member of an unknown name. Each
way of reading overlooks the padding of its schema (`Overlooks`): the place is read as what it was before.
-/

namespace SwaggerSdk.Json

/-- A field of a record: what it holds, and whether it may be null. -/
structure Part (ς : Type) where
  name : String
  isOptional : Bool
  content : ς

def Part.find? {ς : Type} (parts : List (Part ς)) (name : String) : Option (Part ς) := parts.find? (·.name == name)

/-- What a place of a document holds. -/
inductive Schema where
  | scalar
  /-- An entry of a list of parameters: a parameter or a reference to one. -/
  | entry
  | list (items : Schema)
  | table (values : Schema)
  | record (parts : List (Part Schema))

def Schema.parameterParts : List (Part Schema) := [
  ⟨"name", false, .scalar⟩, ⟨"in", false, .scalar⟩, ⟨"description", true, .scalar⟩, ⟨"required", false, .scalar⟩,
  ⟨"type", true, .scalar⟩]

/-- The tree of an entry that is a reference. -/
def IsReference (depth : Nat) (tree : Tree) : Prop :=
  ∃ target, dataFormat.entry ⟨depth, tree⟩ = pure (.reference target)

/-- One thing is added to a tree that may be `depth` containers deep, at a place that its schema leaves free. -/
inductive Padded : Schema → Nat → Tree → Tree → Prop
  | nullItem {items : Schema} {depth : Nat} {before after : List Tree} {fault : Option Fault} :
      Padded (.list items) depth (.array (before ++ after) fault) (.array (before ++ .null :: after) fault)
  | nullMember {values : Schema} {depth : Nat} {before after : List (Lexeme × Tree)} {fault : Option Fault}
      {key : Lexeme} {name : String} (named : key.read = pure name)
      (fresh : ∀ member ∈ before ++ after, member.1.read = pure name → member.2 = .null) :
      Padded (.table values) depth (.object (before ++ after) fault) (.object (before ++ (key, .null) :: after) fault)
  | absentField {parts : List (Part Schema)} {depth : Nat} {before after : List (Lexeme × Tree)} {fault : Option Fault}
      {key : Lexeme} {name : String} {part : Part Schema} (named : key.read = pure name)
      (known : Part.find? parts name = some part) (isOptional : part.isOptional)
      (absent : name ∉ Tree.keyNames (before ++ after)) :
      Padded (.record parts) depth (.object (before ++ after) fault) (.object (before ++ (key, .null) :: after) fault)
  | unknownMember {parts : List (Part Schema)} {depth : Nat} {before after : List (Lexeme × Tree)}
      {fault : Option Fault} {key : Lexeme} {name : String} {value : Tree} (named : key.read = pure name)
      (unknown : Part.find? parts name = none) (complete : value.fault? = none) :
      Padded (.record parts) depth (.object (before ++ after) fault) (.object (before ++ (key, value) :: after) fault)
  /-- What an entry has no value for, it may have null for. -/
  | absentInEntry {depth : Nat} {before after : List (Lexeme × Tree)} {fault : Option Fault}
      {key : Lexeme} {name : String} {part : Part Schema} (named : key.read = pure name)
      (known : Part.find? Schema.parameterParts name = some part) (isOptional : part.isOptional)
      (absent : name ∉ Tree.keyNames (before ++ after)) :
      Padded .entry depth (.object (before ++ after) fault) (.object (before ++ (key, .null) :: after) fault)
  /-- An entry is read as a whole, so what is added to it has to be valid and to fit in. Beside a reference even the
  fields of a parameter are unknown. -/
  | unknownInEntry {depth : Nat} {before after : List (Lexeme × Tree)} {fault : Option Fault} {key : Lexeme}
      {name : String} {value : Tree} (named : key.read = pure name) (other : name ≠ "$ref")
      (unknown : Part.find? Schema.parameterParts name = none ∨ IsReference depth (.object (before ++ after) fault))
      (valid : value.isValid) (fits : value.height + 1 < depth) :
      Padded .entry depth (.object (before ++ after) fault) (.object (before ++ (key, value) :: after) fault)
  | item {items : Schema} {depth : Nat} {before after : List Tree} {fault : Option Fault} {tree tree' : Tree} :
      Padded items (depth - 1) tree tree' →
        Padded (.list items) depth (.array (before ++ tree :: after) fault) (.array (before ++ tree' :: after) fault)
  | value {values : Schema} {depth : Nat} {before after : List (Lexeme × Tree)} {fault : Option Fault} {key : Lexeme}
      {tree tree' : Tree} : Padded values (depth - 1) tree tree' →
        Padded (.table values) depth (.object (before ++ (key, tree) :: after) fault)
          (.object (before ++ (key, tree') :: after) fault)
  | field {parts : List (Part Schema)} {depth : Nat} {before after : List (Lexeme × Tree)} {fault : Option Fault}
      {key : Lexeme} {name : String} {part : Part Schema} {tree tree' : Tree} (named : key.read = pure name)
      (known : Part.find? parts name = some part) : Padded part.content (depth - 1) tree tree' →
        Padded (.record parts) depth (.object (before ++ (key, tree) :: after) fault)
          (.object (before ++ (key, tree') :: after) fault)
  /-- A record may be an array of the values of its fields. -/
  | position {parts : List (Part Schema)} {depth : Nat} {before after : List Tree} {fault : Option Fault}
      {part : Part Schema} {tree tree' : Tree} (here : parts[before.length]? = some part) :
      Padded part.content (depth - 1) tree tree' →
        Padded (.record parts) depth (.array (before ++ tree :: after) fault) (.array (before ++ tree' :: after) fault)

theorem Padded.ne_null {schema : Schema} {depth : Nat} {tree tree' : Tree} (padded : Padded schema depth tree tree') :
    tree ≠ .null ∧ tree' ≠ .null := by
  cases padded <;> exact ⟨nofun, nofun⟩

/-- Padding does not change what a place is read as. -/
def Overlooks {α : Type} (schema : Schema) (read : Place → Except ReadError α) : Prop :=
  ∀ ⦃depth tree tree'⦄, Padded schema depth tree tree' →
    ∀ ⦃x⦄, read ⟨depth, tree⟩ = pure x → read ⟨depth, tree'⟩ = pure x

section Values

variable {α : Type} {schema : Schema} {read : Place → Except ReadError α}

theorem scalar_overlooks (read : Place → Except ReadError α) : Overlooks .scalar read := fun _ _ _ padded => nomatch padded

theorem optional_eq_map {depth : Nat} {tree : Tree} (present : tree ≠ .null) :
    dataFormat.optional read ⟨depth, tree⟩ = some <$> read ⟨depth, tree⟩ := by
  cases tree with
  | null => exact absurd rfl present
  | _ => rfl

theorem optional_overlooks (overlooks : Overlooks schema read) : Overlooks schema (dataFormat.optional read) := by
  intro depth tree tree' padded x reads
  rw [optional_eq_map padded.ne_null.1] at reads
  obtain ⟨value, here, rfl⟩ := Peels.map_eq_pure reads
  rw [optional_eq_map padded.ne_null.2, overlooks padded here, map_pure]

/-- A list whose null items are left out overlooks them. -/
theorem list_overlooks (overlooks : Overlooks schema read) :
    Overlooks (.list schema) fun place => (·.filterMap id) <$> dataFormat.list (dataFormat.optional read) place := by
  intro depth tree tree' padded values reads
  obtain ⟨all, listed, rfl⟩ := Peels.map_eq_pure reads
  cases padded with
  | nullItem =>
    obtain ⟨inner, deep, each, complete⟩ := list_array_eq_pure_iff.mp listed
    have null : dataFormat.optional read ⟨inner, .null⟩ = pure none := rfl
    obtain ⟨first, others, each', rfl⟩ := mapM_insert each null
    have listed' := list_array_eq_pure_iff.mpr ⟨inner, deep, each', complete⟩
    simp only [listed', map_pure, List.filterMap_append, List.filterMap_cons, id]
  | item padded =>
    obtain ⟨inner, deep, each, complete⟩ := list_array_eq_pure_iff.mp listed
    obtain rfl := eq_of_inside deep
    have each' := mapM_exchange each fun _ here => optional_overlooks overlooks padded here
    simp only [list_array_eq_pure_iff.mpr ⟨_, deep, each', complete⟩, map_pure]

theorem readMember_eq {depth : Nat} {key : Lexeme} {tree : Tree} {name : String} {x : α} (named : key.read = pure name)
    (reads : read ⟨depth, tree⟩ = pure x) : readMember read depth (key, tree) = pure (name, x) :=
  readMember_eq_pure_iff.mpr ⟨named, reads⟩

theorem readMember_overlooks (overlooks : Overlooks schema read) {depth : Nat} {key : Lexeme} {tree tree' : Tree}
    (padded : Padded schema depth tree tree') ⦃entry : String × α⦄ (reads : readMember read depth (key, tree) = pure entry) :
    readMember read depth (key, tree') = pure entry := by
  obtain ⟨named, value⟩ := readMember_eq_pure_iff.mp reads
  exact readMember_eq_pure_iff.mpr ⟨named, overlooks padded value⟩

theorem table_overlooks (overlooks : Overlooks schema read) : Overlooks (.table schema) (dataFormat.table read) := by
  intro depth tree tree' padded table reads
  cases padded with
  | nullMember named fresh =>
    obtain ⟨inner, entries, deep, each, complete, rfl⟩ := table_object_eq_pure_iff.mp reads
    have null : dataFormat.optional read ⟨inner, .null⟩ = pure none := rfl
    obtain ⟨first, others, each', rfl⟩ := mapM_insert each (readMember_eq named null)
    refine table_object_eq_pure_iff.mpr ⟨inner, _, deep, each', complete, Table.present_ofList_insert_none ?_⟩
    intro entry listed same
    obtain ⟨member, present, made⟩ := exists_of_mem_mapM each listed
    obtain ⟨named', value⟩ := readMember_eq_pure_iff.mp made
    rw [fresh member present (same ▸ named')] at value
    exact (Peels.pure_inj (null.symm.trans value)).symm
  | value padded =>
    obtain ⟨inner, entries, deep, each, complete, rfl⟩ := table_object_eq_pure_iff.mp reads
    obtain rfl := eq_of_inside deep
    have each' := mapM_exchange each (readMember_overlooks (optional_overlooks overlooks) padded)
    exact table_object_eq_pure_iff.mpr ⟨_, entries, deep, each', complete, rfl⟩

end Values

/-! ### Records -/

section Records

variable {ρ : Type} {shape : Shape (Except ReadError) Place ρ} {parts : List (Part Schema)}

/-- A field is read as its part of a schema says. -/
structure Fits (blank : ρ) (part : Part Schema) (field : Field (Except ReadError) Place ρ) : Prop where
  name : field.name = part.name
  overlooks : Overlooks part.content field.read
  absent : part.isOptional → ∀ depth, ∃ update, field.read ⟨depth, .null⟩ = pure update ∧ update blank = blank

theorem Fits.plain {α : Type} {blank : ρ} {name : String} {content : Schema} {read : Place → Except ReadError α}
    {set : α → ρ → ρ} (overlooks : Overlooks content read) :
    Fits blank ⟨name, false, content⟩ (.plain name read set) where
  name := rfl
  overlooks depth tree tree' padded update reads := by
    obtain ⟨x, value, rfl⟩ := Peels.map_eq_pure reads
    exact congrArg (Except.map set) (overlooks padded value)
  absent := nofun

theorem Fits.nullable {α : Type} {blank : ρ} {name : String} {content : Schema} {read : Place → Except ReadError α}
    {set : Option α → ρ → ρ} (overlooks : Overlooks content read) (idle : set none blank = blank) :
    Fits blank ⟨name, true, content⟩ (.nullable name (dataFormat.optional read) set) where
  name := rfl
  overlooks := by
    have plain : Fits blank ⟨name, false, content⟩ (.plain name (dataFormat.optional read) set) :=
      .plain (optional_overlooks overlooks)
    exact plain.overlooks
  absent _ _ := ⟨set none, rfl, idle⟩

variable {blank : ρ} {fields : List (Field (Except ReadError) Place ρ)} {name : String}

theorem find?_of_fits (fits : List.Forall₂ (Fits blank) parts fields) :
    Option.Rel (Fits blank) (Part.find? parts name) (fields.find? (·.name == name)) := by
  induction fits with
  | nil => exact .none
  | @cons part field _ _ first _ ih =>
    rw [Part.find?, List.find?_cons, List.find?_cons, first.name]
    split
    · exact .some first
    · exact ih

theorem getElem?_of_fits (fits : List.Forall₂ (Fits blank) parts fields) {index : Nat} {part : Part Schema}
    (here : parts[index]? = some part) : ∃ field, fields[index]? = some field ∧ Fits blank part field := by
  induction fits generalizing index with
  | nil => cases here
  | @cons part' field _ _ first _ ih =>
    cases index with
    | zero =>
      obtain rfl := Option.some.inj here
      exact ⟨field, rfl, first⟩
    | succ index => exact ih here

theorem exists_field_of_known (fits : List.Forall₂ (Fits shape.blank) parts shape.fields) {part : Part Schema}
    (known : Part.find? parts name = some part) : ∃ field, shape.field? name = some field ∧ Fits shape.blank part field := by
  have both : Option.Rel (Fits shape.blank) (Part.find? parts name) (shape.field? name) := find?_of_fits fits
  rw [known] at both
  generalize shape.field? name = found at both ⊢
  cases both with
  | some fitting => exact ⟨_, rfl, fitting⟩

theorem field?_of_unknown (fits : List.Forall₂ (Fits shape.blank) parts shape.fields)
    (unknown : Part.find? parts name = none) : shape.field? name = none := by
  have both : Option.Rel (Fits shape.blank) (Part.find? parts name) (shape.field? name) := find?_of_fits fits
  rw [unknown] at both
  generalize shape.field? name = found at both ⊢
  cases both
  rfl

theorem field_eq_pure_iff {key : Lexeme} {found : Option (Field (Except ReadError) Place ρ)} :
    key.read.map shape.field? = pure found ↔ ∃ name, key.read = pure name ∧ shape.field? name = found := by
  constructor
  · intro h
    exact Peels.map_eq_pure (show shape.field? <$> key.read = pure found from h)
  · rintro ⟨name, named, rfl⟩
    rw [named]
    rfl

theorem mem_of_field_eq_pure ⦃key : Lexeme⦄ ⦃field : Field (Except ReadError) Place ρ⦄
    (found : key.read.map shape.field? = pure (some field)) : field ∈ shape.fields := by
  obtain ⟨name, -, known⟩ := field_eq_pure_iff.mp found
  exact List.mem_of_find?_eq_some known

theorem mem_keyNames {members : List (Lexeme × Tree)} {member : Lexeme × Tree} (listed : member ∈ members)
    (named : member.1.read = pure name) : name ∈ Tree.keyNames members :=
  List.mem_filterMap.mpr ⟨member, listed, by rw [named]; rfl⟩

theorem record_overlooks (fits : List.Forall₂ (Fits shape.blank) parts shape.fields)
    (commute : shape.fields.Pairwise Field.Commutes) : Overlooks (.record parts) (dataFormat.record shape) := by
  intro depth tree tree' padded record reads
  have refuses : ∀ name, (throw (.misfit (.repeatedField name)) : Except ReadError Unit) ≠ pure () := nofun
  cases padded with
  | absentField named known isOptional absent =>
    obtain ⟨inner, deep, members, complete⟩ := record_object_eq_pure_iff.mp reads
    obtain ⟨field, here, fitting⟩ := exists_field_of_known fits known
    -- null is read as what the field is at first, so setting it changes nothing
    obtain ⟨update, null, idle⟩ := fitting.absent isOptional inner
    rw [List.map_append] at members
    refine record_object_eq_pure_iff.mpr ⟨inner, deep, ?_, complete⟩
    rw [List.map_append, List.map_cons]
    refine Shape.ofMembers_insert_absent commute mem_of_field_eq_pure refuses
      (field_eq_pure_iff.mpr ⟨_, named, here⟩) null idle ?_ members
    intro member listed other found same
    rw [← List.map_append, List.mem_map] at listed
    obtain ⟨origin, listed, rfl⟩ := listed
    obtain ⟨name', named', known'⟩ := field_eq_pure_iff.mp found
    rw [← Shape.name_of_field? here, ← same, Shape.name_of_field? known'] at absent
    exact absent (mem_keyNames listed named')
  | @unknownMember _ _ _ _ _ _ _ value named unknown valid =>
    obtain ⟨inner, deep, members, complete⟩ := record_object_eq_pure_iff.mp reads
    -- what no field has the name of is only passed over
    have skipped : value.skip = pure () := by rw [Tree.skip, valid]; rfl
    rw [List.map_append] at members
    refine record_object_eq_pure_iff.mpr ⟨inner, deep, ?_, complete⟩
    rw [List.map_append, List.map_cons]
    rw [Shape.ofMembers_insert_pass]
    · exact members
    · exact field_eq_pure_iff.mpr ⟨_, named, field?_of_unknown fits unknown⟩
    · exact skipped
  | field named known padded =>
    obtain ⟨inner, deep, members, complete⟩ := record_object_eq_pure_iff.mp reads
    obtain rfl := eq_of_inside deep
    obtain ⟨field, here, fitting⟩ := exists_field_of_known fits known
    have found := field_eq_pure_iff.mpr ⟨_, named, here⟩
    refine record_object_eq_pure_iff.mpr ⟨_, deep, ?_, complete⟩
    rw [List.map_append, List.map_cons] at members ⊢
    refine Shape.ofMembers_exchange refuses (fun made makes => ?_) members
    rcases Shape.step_eq_pure_iff.mp makes with ⟨unknown, -, -⟩ | ⟨field', update, found', reads, rfl⟩
    · cases Peels.pure_inj (found.symm.trans unknown)
    · cases Peels.pure_inj (found.symm.trans found')
      exact Shape.step_eq_pure_iff.mpr (Or.inr ⟨_, update, found, fitting.overlooks padded reads, rfl⟩)
  | @position _ _ before _ _ _ _ _ here padded =>
    obtain ⟨inner, rest, deep, items, none, complete⟩ := record_array_eq_pure_iff.mp reads
    obtain rfl := eq_of_inside deep
    obtain ⟨field, here', fitting⟩ := getElem?_of_fits fits here
    refine record_array_eq_pure_iff.mpr ⟨_, rest, deep, ?_, none, complete⟩
    rw [List.map_append, List.map_cons] at items ⊢
    exact Shape.ofItems_exchange (by rwa [List.length_map]) (fun _ reads => fitting.overlooks padded reads) items

end Records

end SwaggerSdk.Json
