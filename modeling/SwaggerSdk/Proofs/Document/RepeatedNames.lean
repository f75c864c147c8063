import Mathlib
import SwaggerSdk.Proofs.Document.Fields
import SwaggerSdk.Proofs.Document.Loading
import SwaggerSdk.Proofs.Json.Padding
import SwaggerSdk.Proofs.Json.Strings
import SwaggerSdk.Proofs.Json.ReorderedPlaces

/-!
# Objects with repeated names

An object that is read as a table may have several members of one name. The last of them counts: the name stands for
what that one says, and for nothing if it is null. Where the name stands is settled by the first of them, whatever became
of its value. `ofText_collects` says so of the paths and of the shared parameters of a document.
-/

namespace SwaggerSdk

namespace Json

/-! ### What a text gives for a name -/

def Lexeme.name? (key : Lexeme) : Option String := key.read.toOption

namespace Tree

/-- The value that a record gives for a field: under its name in an object, in its place in an array. -/
def fieldValue? (fields : List String) (name : String) : Tree → Option Tree
  | object members _ => Shape.placeOf? Lexeme.name? name members
  | array items _ => Shape.placeOf? some name (fields.zip items)
  | _ => none

/-- The value of the last member of a name. -/
def lastValue? (name : String) (members : List (Lexeme × Tree)) : Option Tree :=
  Shape.placeOf? Lexeme.name? name members.reverse

end Tree

/-- A table holds what the members of an object say, read one by one with `read`. -/
structure Collects {α : Type} (read : Tree → Except ReadError α) (members : List (Lexeme × Tree))
    (table : Table String α) : Prop where
  distinct : table.keys.Nodup
  present : ∀ name, name ∈ table.keys ↔ ∃ tree, Tree.lastValue? name members = some tree ∧ tree ≠ .null
  reads : ∀ name tree, Tree.lastValue? name members = some tree → tree ≠ .null →
    ∃ value, read tree = .ok value ∧ table.get? name = some value
  order : table.keys = (Tree.keyNames members).eraseDups.filter fun name => decide (name ∈ table.keys)

/-! ### Tables -/

section Tables

variable {α : Type} {read : Place → Except ReadError α} {depth : Nat} {members : List (Lexeme × Tree)}
  {fault : Option Fault} {name : String}

theorem lookup_of_readMember {entries : List (String × α)}
    (each : List.Forall₂ (fun member entry => readMember read depth member = pure entry) members entries) :
    Option.Rel (fun tree value => read ⟨depth, tree⟩ = pure value) (Shape.placeOf? Lexeme.name? name members)
      (entries.lookup name) := by
  induction each with
  | nil => exact .none
  | @cons member entry _ _ first _ ih =>
    obtain ⟨named, value⟩ := readMember_eq_pure_iff.mp first
    have spelled : Lexeme.name? member.1 = some entry.1 := by
      rw [Lexeme.name?, named]
      rfl
    rw [Shape.placeOf?_cons, Table.lookup_cons_eq, spelled]
    by_cases here : name = entry.1
    · rw [if_pos here, if_pos (congrArg some here.symm)]
      exact .some value
    · rw [if_neg here, if_neg fun both => here (Option.some.inj both).symm]
      exact ih

theorem table_collects {table : Table String α}
    (reads : dataFormat.table read ⟨depth, .object members fault⟩ = pure table) :
    Collects (fun tree => read ⟨depth - 1, tree⟩) members table := by
  obtain ⟨inner, entries, deep, each, -, rfl⟩ := table_object_eq_pure_iff.mp reads
  obtain rfl := eq_of_inside deep
  have last (name : String) : Option.Rel (fun tree value => dataFormat.optional read ⟨depth - 1, tree⟩ = pure value)
      (Tree.lastValue? name members) ((Table.ofList entries).get? name) := by
    rw [Table.get?_ofList]
    exact lookup_of_readMember (List.forall₂_reverse_iff.mpr (mapM_eq_pure_iff.mp each))
  have reads : ∀ name tree, Tree.lastValue? name members = some tree → tree ≠ .null →
      ∃ value, read ⟨depth - 1, tree⟩ = .ok value ∧ (Table.ofList entries).present.get? name = some value := by
    intro name tree found notNull
    have both := last name
    rw [found] at both
    generalize held : (Table.ofList entries).get? name = value? at both
    cases both with
    | some here =>
      rw [optional_eq_map notNull] at here
      obtain ⟨value, there, rfl⟩ := Peels.map_eq_pure here
      exact ⟨value, there, Table.get?_present_eq_some_iff.mpr held⟩
  refine ⟨(Table.ofList entries).present.distinct, fun name => ?_, reads, ?_⟩
  · rw [Table.mem_keys_iff]
    constructor
    · rintro ⟨value, held⟩
      have both := last name
      rw [Table.get?_present_eq_some_iff.mp held] at both
      generalize Tree.lastValue? name members = tree? at both
      cases both with
      | @some tree _ here =>
        -- what is held has not been read from null
        refine ⟨tree, rfl, ?_⟩
        rintro rfl
        cases here
    · rintro ⟨tree, found, notNull⟩
      obtain ⟨value, -, held⟩ := reads name tree found notNull
      exact ⟨value, held⟩
  · rw [keyNames_eq_of_mapM each, ← Table.keys_ofList]
    exact Table.keys_present _

end Tables

/-! ### Fields of records -/

section Records

variable {ρ β : Type} {shape : Shape (Except ReadError) Place ρ} {name : String} {get : ρ → β}
  {read : Place → Except ReadError β}

theorem refuse_ne_pure (tree : Tree) (wanted : String) (value : ρ) : tree.refuse wanted ≠ pure value := by
  intro accepted
  obtain ⟨_, -, thrown⟩ := Peels.bind_eq_pure accepted
  cases thrown

theorem get_record (isField : (shape.field? name).isSome) (distinct : (shape.fields.map (·.name)).Nodup)
    (acts : ∀ field ∈ shape.fields, field.Acts name get read) {depth : Nat} {tree : Tree} {record : ρ}
    (reads : dataFormat.record shape ⟨depth, tree⟩ = pure record) :
    ReadFrom (fun tree => read ⟨depth - 1, tree⟩) (get shape.blank) (tree.fieldValue? (shape.fields.map (·.name)) name)
      (get record) := by
  have known : ∀ ⦃key : Lexeme⦄ ⦃found⦄, Returns (key.read.map shape.field?) found →
      ∃ name, Lexeme.name? key = some name ∧ shape.field? name = found := by
    intro key found returned
    obtain ⟨name, named, found?⟩ := field_eq_pure_iff.mp returned
    exact ⟨name, by rw [Lexeme.name?, named]; rfl, found?⟩
  cases tree with
  | object members fault =>
    obtain ⟨inner, deep, made, -⟩ := record_object_eq_pure_iff.mp reads
    obtain rfl := eq_of_inside deep
    have found := Shape.get_ofMembers isField acts known (fun _ _ accepted => by cases accepted) made
    have placed := Shape.placeOf?_map Lexeme.name? name id (Place.mk (depth - 1)) members
    exact ReadFrom.map_iff.mp (placed ▸ found)
  | array items fault =>
    obtain ⟨inner, rest, deep, made, -, -⟩ := record_array_eq_pure_iff.mp reads
    obtain rfl := eq_of_inside deep
    have found := Shape.get_ofItems distinct acts made
    have placed := Shape.placeOf?_map some name id (Place.mk (depth - 1)) ((shape.fields.map (·.name)).zip items)
    rw [List.zip_map_right] at found
    exact ReadFrom.map_iff.mp (placed ▸ found)
  | null | flag _ | number _ | text _ | broken _ => exact absurd reads (refuse_ne_pure _ _ _)

/-- A table that is a field of a record holds what the object says that the text gives for it. -/
theorem record_collects {α : Type} {get : ρ → Table String α} {read : Place → Except ReadError α}
    (isField : (shape.field? name).isSome) (distinct : (shape.fields.map (·.name)).Nodup)
    (acts : ∀ field ∈ shape.fields, field.Acts name get (dataFormat.table read)) {depth : Nat} {tree : Tree} {record : ρ}
    (reads : dataFormat.record shape ⟨depth, tree⟩ = pure record) {members : List (Lexeme × Tree)} {fault : Option Fault}
    (given : tree.fieldValue? (shape.fields.map (·.name)) name = some (.object members fault)) :
    Collects (fun tree => read ⟨depth - 2, tree⟩) members (get record) := by
  have found := get_record isField distinct acts reads
  rw [given] at found
  exact table_collects found

end Records

end Json

/-! ### Documents -/

namespace Document

/-- The fields of a document, in the order that they have where it is an array. -/
def fieldNames : List String := ["swagger", "openapi", "info", "host", "basePath", "paths", "parameters"]

open Json in
/-- The paths and the shared parameters of a document are what the last members of each name say, in the order of the
first ones. -/
theorem ofText_collects {text : String} {document : Document} (loaded : ofText .json text = .ok document)
    {members : List (Lexeme × Tree)} {fault : Option Fault} :
    ((Tree.ofText text).1.fieldValue? fieldNames "paths" = some (.object members fault) →
      Collects (fun tree => dataFormat.pathItem ⟨depthLimit - 2, tree⟩) members document.paths) ∧
    ((Tree.ofText text).1.fieldValue? fieldNames "parameters" = some (.object members fault) →
      Collects (fun tree => dataFormat.parameter ⟨depthLimit - 2, tree⟩) members document.parameters) := by
  have reads : dataFormat.document ⟨depthLimit, (Tree.ofText text).1⟩ = pure document :=
    (readDocument_eq_ok_iff.mp (ofText_json_eq_ok_iff.mp loaded).1).1
  constructor
  · refine record_collects rfl (by decide) ?_ reads
    simp only [List.forall_mem_cons]
    exact ⟨.other (by decide) fun _ _ => rfl, .other (by decide) fun _ _ => rfl, .other (by decide) fun _ _ => rfl,
      .other (by decide) fun _ _ => rfl, .other (by decide) fun _ _ => rfl, .own fun _ _ => rfl,
      .other (by decide) fun _ _ => rfl, List.forall_mem_nil _⟩
  · refine record_collects rfl (by decide) ?_ reads
    simp only [List.forall_mem_cons]
    exact ⟨.other (by decide) fun _ _ => rfl, .other (by decide) fun _ _ => rfl, .other (by decide) fun _ _ => rfl,
      .other (by decide) fun _ _ => rfl, .other (by decide) fun _ _ => rfl, .other (by decide) fun _ _ => rfl,
      .own fun _ _ => rfl, List.forall_mem_nil _⟩

/-- Paths and a shared parameter that are given twice: a value behind null, and null behind a value. -/
def resettingText : String :=
  "\x7b\"paths\":\x7b\"/toys\":null,\"/pets\":\x7b\x7d,\"/toys\":\x7b\x7d,\"/pets\":null\x7d," ++
    "\"parameters\":\x7b\"size\":\x7b\"name\":\"width\"\x7d,\"size\":\x7b\"name\":\"size\"\x7d\x7d\x7d"

end Document

namespace Json

def Tree.resettingPaths : List (Lexeme × Tree) :=
  [(.ofText "/toys", .null), (.ofText "/pets", .object [] none), (.ofText "/toys", .object [] none), (.ofText "/pets", .null)]

def Tree.resettingParameters : List (Lexeme × Tree) :=
  [(.ofText "size", .object [(.ofText "name", .text (.ofText "width"))] none),
    (.ofText "size", .object [(.ofText "name", .text (.ofText "size"))] none)]

theorem Lexeme.name?_ofText (text : String) : name? (.ofText text) = some text := by
  rw [name?, read_ofText]
  rfl

end Json

open Json in
theorem Document.tree_resettingText : (Tree.ofText resettingText).1 =
    .object [(.ofText "paths", .object Tree.resettingPaths none),
      (.ofText "parameters", .object Tree.resettingParameters none)] none := by
  cbv

open Json in
theorem Document.ofText_collects_resetting :
    (Tree.ofText resettingText).1.fieldValue? fieldNames "paths" = some (.object Tree.resettingPaths none) ∧
    (Tree.ofText resettingText).1.fieldValue? fieldNames "parameters" = some (.object Tree.resettingParameters none) ∧
    ∃ document, ofText .json resettingText = .ok document ∧
      Collects (fun tree => dataFormat.pathItem ⟨depthLimit - 2, tree⟩) Tree.resettingPaths document.paths ∧
      Collects (fun tree => dataFormat.parameter ⟨depthLimit - 2, tree⟩) Tree.resettingParameters document.parameters ∧
      "/toys" ∈ document.paths.keys ∧ "/pets" ∉ document.paths.keys := by
  have paths : (Tree.ofText resettingText).1.fieldValue? fieldNames "paths" =
      some (.object Tree.resettingPaths none) := by
    simp [tree_resettingText, Tree.fieldValue?, Shape.placeOf?_cons, Lexeme.name?_ofText]
  have parameters : (Tree.ofText resettingText).1.fieldValue? fieldNames "parameters" =
      some (.object Tree.resettingParameters none) := by
    simp [tree_resettingText, Tree.fieldValue?, Shape.placeOf?_cons, Lexeme.name?_ofText]
  have isLoaded : (ofText .json resettingText).toOption.isSome := by decide +kernel
  obtain ⟨document, loaded⟩ := exists_ok_of_isSome isLoaded
  have collected := (ofText_collects loaded).1 paths
  have isFilled : Tree.lastValue? "/toys" Tree.resettingPaths = some (.object [] none) := by
    simp [Tree.lastValue?, Tree.resettingPaths, Shape.placeOf?_cons, Lexeme.name?_ofText]
  have isNull : Tree.lastValue? "/pets" Tree.resettingPaths = some .null := by
    simp [Tree.lastValue?, Tree.resettingPaths, Shape.placeOf?_cons, Lexeme.name?_ofText]
  refine ⟨paths, parameters, document, loaded, collected, (ofText_collects loaded).2 parameters, ?_, ?_⟩
  · rw [collected.present]
    refine ⟨.object [] none, isFilled, ?_⟩
    rintro ⟨⟩
  · rw [collected.present, isNull]
    rintro ⟨_, ⟨⟩, notNull⟩
    exact notNull rfl

end SwaggerSdk
