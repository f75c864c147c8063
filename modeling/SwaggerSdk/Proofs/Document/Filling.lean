import Mathlib.Data.List.Basic
import SwaggerSdk.Datum
import SwaggerSdk.Document.Shape

/-!
# Filling a record from its written fields

Fields that are written in the order of a shape fill a record step by step. A stretch of fields is known by the
names that it may hold and by what it makes of the record before it, so a record that is written in stretches
is read in the same stretches. `Fills.ofMembers_eq` says what comes out at the end.
-/

namespace SwaggerSdk

/-- How the members of a record are read in a format, and how written data appear there. -/
structure MemberReading (m : Type → Type) (κ σ ρ : Type) where
  shape : Shape m σ ρ
  fieldOf : κ → m (Option (Field m σ ρ))
  skip : σ → m Unit
  repeated : String → m Unit
  keyOf : String → κ
  placeOf : Datum → σ

namespace MemberReading

variable {m : Type → Type} [Monad m] {κ σ ρ : Type} (reading : MemberReading m κ σ ρ)

def member (field : String × Datum) : κ × σ := (reading.keyOf field.1, reading.placeOf field.2)

def run (seen : List String) (record : ρ) (members : List (κ × σ)) : m ρ :=
  Shape.ofMembers reading.fieldOf reading.skip reading.repeated seen record members

/-- A written name is the key of the field of that name. -/
def Knows : Prop := ∀ name, reading.fieldOf (reading.keyOf name) = pure (reading.shape.field? name)

/-- Reading some written fields leads from one record to another, wherever none of the names has been seen; no
other name is seen on the way. -/
def Fills (names : List String) (fields : List (String × Datum)) (before after : ρ) : Prop :=
  ∀ (seen : List String) (rest : List (κ × σ)), (∀ name ∈ names, name ∉ seen) →
    ∃ seen', (∀ name ∈ seen', name ∈ names ∨ name ∈ seen) ∧
      reading.run seen before (fields.map reading.member ++ rest) = reading.run seen' after rest

end MemberReading

namespace MemberReading.Fills

variable {m : Type → Type} [Monad m] {κ σ ρ : Type} {reading : MemberReading m κ σ ρ} {names names' : List String}
  {fields fields' : List (String × Datum)} {before middle after : ρ}

theorem none (names : List String) (record : ρ) : reading.Fills names [] record record :=
  fun seen _ _ => ⟨seen, fun _ => Or.inr, rfl⟩

theorem append (first : reading.Fills names fields before middle) (second : reading.Fills names' fields' middle after)
    (apart : List.Disjoint names names' := by simp) :
    reading.Fills (names ++ names') (fields ++ fields') before after := by
  intro seen rest fresh
  obtain ⟨seen', grown, here⟩ := first seen (fields'.map reading.member ++ rest) fun name member =>
    fresh name (List.mem_append_left _ member)
  obtain ⟨seen'', grown', there⟩ := second seen' rest fun name member again =>
    (grown name again).elim (fun earlier => apart earlier member) (fresh name (List.mem_append_right _ member))
  refine ⟨seen'', fun name member => ?_, by rw [List.map_append, List.append_assoc, here, there]⟩
  rw [List.mem_append]
  rcases grown' name member with new | old
  · exact Or.inl (Or.inr new)
  · exact (grown name old).imp_left Or.inl

/-- The record that all fields of it together make. -/
theorem ofMembers_eq (fills : reading.Fills names fields before after) :
    reading.run [] before (fields.map reading.member) = pure after := by
  obtain ⟨seen, -, run⟩ := fills [] [] fun _ _ => List.not_mem_nil
  rw [List.append_nil] at run
  rw [run, MemberReading.run, Shape.ofMembers]

/-! ### Single fields -/

variable [LawfulMonad m] {α : Type} {name : String} (knows : reading.Knows)

include knows

theorem field {datum : Datum} {set : ρ → ρ} {field : Field m σ ρ} (found : reading.shape.field? name = some field)
    (named : field.name = name) (reads : field.read (reading.placeOf datum) = pure set) :
    reading.Fills [name] [(name, datum)] before (set before) := by
  intro seen rest fresh
  refine ⟨name :: seen, fun other member => ?_, ?_⟩
  · exact (List.mem_cons.mp member).imp_left List.mem_singleton.mpr
  · have unseen : name ∉ seen := fresh name List.mem_cons_self
    rw [List.map_singleton, List.singleton_append, member, run, Shape.ofMembers, knows, found, pure_bind]
    simp [named, unseen, reads, run]

theorem plain {read : σ → m α} {set : α → ρ → ρ} {datum : Datum} {value : α}
    (found : reading.shape.field? name = some (.plain name read set))
    (reads : read (reading.placeOf datum) = pure value) (makes : set value before = after) :
    reading.Fills [name] [(name, datum)] before after := by
  have field : (Field.plain name read set).read (reading.placeOf datum) = pure (set value) := by
    simp [Field.plain, reads]
  rw [← makes]
  exact .field knows found rfl field

theorem nullable {read : σ → m (Option α)} {set : Option α → ρ → ρ} {value : Option α} {toDatum : α → Datum}
    (found : reading.shape.field? name = some (.nullable name read set))
    (reads : ∀ x ∈ value, read (reading.placeOf (toDatum x)) = pure (some x)) (absent : set .none before = before)
    (makes : set value before = after) :
    reading.Fills [name] (Datum.present name (value.map toDatum)) before after := by
  rw [← makes]
  cases value with
  | none =>
    rw [absent]
    exact none [name] before
  | some x =>
    have field : (Field.nullable name read set).read (reading.placeOf (toDatum x)) = pure (set (some x)) := by
      simp [Field.nullable, reads x rfl]
    exact .field knows found rfl field

end MemberReading.Fills

end SwaggerSdk
