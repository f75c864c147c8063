import SwaggerSdk.Document.Datum
import SwaggerSdk.Proofs.Document.Filling
import SwaggerSdk.Proofs.Json.Places
import SwaggerSdk.Proofs.Json.Writing
import SwaggerSdk.Proofs.Tables

/-!
# What is read from written data

The tree of written data is a place like any other. At sufficient depth texts, flags, lists and tables are read there
as they were written, and so is a record whose fields fill it. What an entry of a list is judged by, its typed value,
is a map of its fields.
-/

namespace SwaggerSdk

namespace Json

def placeOf (depth : Nat) (datum : Datum) : Place := ⟨depth, treeOf datum⟩

def objectReading {ρ : Type} (shape : Shape (Except ReadError) Place ρ) (depth : Nat) :
    MemberReading (Except ReadError) Lexeme Place ρ where
  shape
  fieldOf key := key.read.map shape.field?
  skip place := place.tree.skip
  repeated name := throw (.misfit (.repeatedField name))
  keyOf := .ofText
  placeOf := placeOf depth

theorem memberTrees_eq_map (fields : List (String × Datum)) :
    memberTrees fields = fields.map fun field => (.ofText field.1, treeOf field.2) := by
  induction fields with
  | nil => rfl
  | cons field fields ih => rw [memberTrees, ih, List.map_cons]

theorem itemTrees_eq_map (items : List Datum) : itemTrees items = items.map treeOf := by
  induction items with
  | nil => rfl
  | cons item items ih => rw [itemTrees, ih, List.map_cons]

section Values

variable {depth : Nat} {α ρ : Type} {read : Place → Except ReadError α}

theorem knows_objectReading (shape : Shape (Except ReadError) Place ρ) (depth : Nat) :
    (objectReading shape depth).Knows := by
  intro name
  have read : (Lexeme.ofText name).read.map shape.field? = pure (shape.field? name) := by
    rw [read_ofText]
    rfl
  exact read

theorem text_placeOf (text : String) : dataFormat.text (placeOf depth (.text text)) = pure text := read_ofText text

theorem flag_placeOf (flag : Bool) : dataFormat.flag (placeOf depth (.flag flag)) = pure flag := rfl

theorem optional_placeOf {datum : Datum} {value : α} (reads : read (placeOf depth datum) = pure value) :
    dataFormat.optional read (placeOf depth datum) = pure (some value) := by
  have present : dataFormat.optional read (placeOf depth datum) = some <$> read (placeOf depth datum) := by
    cases datum <;> rfl
  rw [present, reads, map_pure]

theorem optionalText_placeOf (text : String) :
    dataFormat.optionalText (placeOf depth (.text text)) = pure (some text) :=
  optional_placeOf (text_placeOf text)

theorem record_placeOf {shape : Shape (Except ReadError) Place ρ} {names : List String}
    {fields : List (String × Datum)} {record : ρ} (deep : 1 < depth)
    (fills : (objectReading shape (depth - 1)).Fills names fields shape.blank record) :
    dataFormat.record shape (placeOf depth (.record fields)) = pure record := by
  have members : (memberTrees fields).map (fun member => (member.1, (⟨depth - 1, member.2⟩ : Place))) =
      fields.map (objectReading shape (depth - 1)).member := by
    rw [memberTrees_eq_map, List.map_map]
    rfl
  have read := fills.ofMembers_eq
  rw [← members] at read
  exact record_object_eq_pure_iff.mpr ⟨depth - 1, inside_eq deep, read, rfl⟩

theorem list_placeOf {β : Type} {toDatum : β → Datum} {valueOf : β → α} {items : List β} (deep : 1 < depth)
    (reads : ∀ item ∈ items, read (placeOf (depth - 1) (toDatum item)) = pure (valueOf item)) :
    dataFormat.list read (placeOf depth (.list (items.map toDatum))) = pure (items.map valueOf) := by
  have each : (itemTrees (items.map toDatum)).mapM (fun tree => read ⟨depth - 1, tree⟩) =
      pure (items.map valueOf) := by
    rw [itemTrees_eq_map, List.map_map]
    exact mapM_map_eq_pure reads
  exact list_array_eq_pure_iff.mpr ⟨depth - 1, inside_eq deep, each, rfl⟩

theorem table_placeOf {toDatum : α → Datum} (table : Table String α) (deep : 1 < depth)
    (reads : ∀ value, read (placeOf (depth - 1) (toDatum value)) = pure value) :
    dataFormat.table read (placeOf depth (.record (table.toFields toDatum))) = pure table := by
  have each : (memberTrees (table.toFields toDatum)).mapM (readMember (dataFormat.optional read) (depth - 1)) =
      pure (table.entries.map fun entry => (entry.1, some entry.2)) := by
    rw [memberTrees_eq_map, Table.toFields, List.map_map]
    exact mapM_map_eq_pure fun entry _ =>
      readMember_eq_pure_iff.mpr ⟨read_ofText entry.1, optional_placeOf (reads entry.2)⟩
  have distinct : ((table.entries.map fun entry => (entry.1, some entry.2)).map (·.1)).Nodup := by
    rw [List.map_map]
    exact table.distinct
  have same : (Table.ofList (table.entries.map fun entry => (entry.1, some entry.2))).present = table := by
    apply Table.eq_of_entries
    rw [Table.present_entries, Table.entries_ofList distinct, List.filterMap_map]
    exact List.filterMap_some
  exact table_object_eq_pure_iff.mpr ⟨depth - 1, _, inside_eq deep, each, rfl, same⟩

end Values

/-! ### Fields that may be left out -/

section Fields

variable {depth : Nat} {α ρ : Type} {shape : Shape (Except ReadError) Place ρ} {name : String} {before after : ρ}

theorem fills_text {value : Option String} {set : Option String → ρ → ρ}
    (found : shape.field? name = some (.nullable name dataFormat.optionalText set)) (absent : set none before = before)
    (makes : set value before = after) :
    (objectReading shape depth).Fills [name] (Datum.presentText name value) before after :=
  .nullable (knows_objectReading shape depth) found (fun text _ => optionalText_placeOf text) absent makes

theorem fills_table {read : Place → Except ReadError α} {toDatum : α → Datum} {set : Table String α → ρ → ρ}
    (table : Table String α) (deep : 1 < depth)
    (reads : ∀ value, read (placeOf (depth - 1) (toDatum value)) = pure value)
    (found : shape.field? name = some (.plain name (dataFormat.table read) set))
    (empty : set .empty before = before) (makes : set table before = after) :
    (objectReading shape depth).Fills [name] (Datum.presentRecord name (table.toFields toDatum)) before after := by
  by_cases none : table.entries = []
  · obtain rfl : table = .empty := Table.eq_of_entries none
    rw [← makes, empty]
    exact .none _ _
  · have written : Datum.presentRecord name (table.toFields toDatum) =
        [(name, .record (table.toFields toDatum))] := by
      simp [Datum.presentRecord, Table.toFields, none]
    rw [written]
    exact .plain (knows_objectReading _ _) found (table_placeOf table deep reads) makes

end Fields

end Json

/-! ### Typed values -/

namespace Datum

def IsScalar : Datum → Prop
  | flag _ | text _ => True
  | list _ | record _ => False

/-- The typed value of a scalar; containers lose their content. -/
def typed : Datum → Value
  | flag value => .flag value
  | text value => .text value
  | list _ => .list []
  | record _ => .map []

def typedFields (fields : List (String × Datum)) : List (Value × Value) :=
  fields.map fun field => (.text field.1, field.2.typed)

end Datum

namespace Json

variable {depth : Nat}

theorem readTyped_scalar {datum : Datum} (scalar : datum.IsScalar) :
    readTyped depth (treeOf datum) = pure datum.typed := by
  cases datum with
  | flag value => rfl
  | text value => rw [treeOf, readTyped, read_ofText]; rfl
  | list items => exact scalar.elim
  | record fields => exact scalar.elim

/-- What is written without lists and records in it is read as a map of its fields. -/
theorem readTyped_record {fields : List (String × Datum)} (deep : 1 < depth)
    (scalars : ∀ field ∈ fields, field.2.IsScalar) :
    readTyped depth (treeOf (.record fields)) = pure (.map (Datum.typedFields fields)) := by
  have each : (memberTrees fields).mapM (typedMember (depth - 1)) = pure (Datum.typedFields fields) := by
    rw [memberTrees_eq_map, Datum.typedFields]
    refine mapM_map_eq_pure fun field listed => ?_
    rw [typedMember, read_ofText, readTyped_scalar (scalars field listed)]
    rfl
  exact readTyped_object_eq_pure_iff.mpr ⟨depth - 1, _, inside_eq deep, each, rfl, rfl⟩

end Json

end SwaggerSdk
