import SwaggerSdk.Json.Document
import SwaggerSdk.Proofs.Peels

/-!
# What it takes to read a place

Each way of reading a container succeeds just if the container may be as deep as it is, its content can be read and
it is complete. These are the equivalences by which what is known of a container is taken apart and put together.
-/

namespace SwaggerSdk.Json

section Containers

variable {α β : Type} {depth : Nat} {fault : Option Fault} {body : Nat → Except ReadError α} {make : α → β} {result : β}

theorem container_eq_pure_iff :
    (do let inner ← inside depth
        let content ← body inner
        closed fault
        return make content) = pure result ↔
      ∃ inner content, inside depth = pure inner ∧ body inner = pure content ∧ closed fault = pure () ∧
        make content = result := by
  constructor
  · intro h
    obtain ⟨inner, deep, h⟩ := Peels.bind_eq_pure h
    obtain ⟨content, reads, h⟩ := Peels.bind_eq_pure h
    obtain ⟨_, complete, h⟩ := Peels.bind_eq_pure h
    exact ⟨inner, content, deep, reads, complete, Peels.pure_inj h⟩
  · rintro ⟨inner, content, deep, reads, complete, rfl⟩
    simp only [deep, pure_bind, reads, complete]

/-- A container that is read as its content. -/
theorem content_eq_pure_iff {content : α} :
    (do let inner ← inside depth
        let content ← body inner
        closed fault
        return content) = pure content ↔
      ∃ inner, inside depth = pure inner ∧ body inner = pure content ∧ closed fault = pure () := by
  constructor
  · intro h
    obtain ⟨inner, _, deep, reads, complete, rfl⟩ := container_eq_pure_iff.mp h
    exact ⟨inner, deep, reads, complete⟩
  · rintro ⟨inner, deep, reads, complete⟩
    exact container_eq_pure_iff.mpr ⟨inner, content, deep, reads, complete, rfl⟩

theorem inside_eq (deep : 1 < depth) : inside depth = pure (depth - 1) := if_neg (by omega)

theorem eq_of_inside {inner : Nat} (deep : inside depth = pure inner) : inner = depth - 1 := by
  by_cases shallow : depth ≤ 1
  · rw [inside, if_pos shallow] at deep
    cases deep
  · rw [inside_eq (by omega)] at deep
    exact (Peels.pure_inj deep).symm

end Containers

/-! ### Lists and tables -/

section Values

variable {α : Type} {read : Place → Except ReadError α} {depth : Nat} {fault : Option Fault}

theorem list_array_eq_pure_iff {items : List Tree} {values : List α} :
    dataFormat.list read ⟨depth, .array items fault⟩ = pure values ↔
      ∃ inner, inside depth = pure inner ∧ items.mapM (fun tree => read ⟨inner, tree⟩) = pure values ∧
        closed fault = pure () :=
  content_eq_pure_iff

def readMember (read : Place → Except ReadError α) (depth : Nat) (member : Lexeme × Tree) :
    Except ReadError (String × α) := do
  let name ← member.1.read
  let value ← read ⟨depth, member.2⟩
  return (name, value)

theorem readMember_eq_pure_iff {member : Lexeme × Tree} {entry : String × α} :
    readMember read depth member = pure entry ↔
      member.1.read = pure entry.1 ∧ read ⟨depth, member.2⟩ = pure entry.2 := by
  constructor
  · intro h
    obtain ⟨name, named, h⟩ := Peels.bind_eq_pure h
    obtain ⟨value, reads, h⟩ := Peels.bind_eq_pure h
    rw [← Peels.pure_inj h]
    exact ⟨named, reads⟩
  · rintro ⟨named, reads⟩
    rw [readMember, named, pure_bind, reads, pure_bind]

theorem table_object_eq_pure_iff {members : List (Lexeme × Tree)} {table : Table String α} :
    dataFormat.table read ⟨depth, .object members fault⟩ = pure table ↔
      ∃ inner entries, inside depth = pure inner ∧
        members.mapM (readMember (dataFormat.optional read) inner) = pure entries ∧ closed fault = pure () ∧
        (Table.ofList entries).present = table :=
  container_eq_pure_iff

end Values

/-! ### Records -/

section Records

variable {ρ : Type} {shape : Shape (Except ReadError) Place ρ} {depth : Nat} {fault : Option Fault} {record : ρ}

theorem record_array_eq_pure_iff {items : List Tree} :
    dataFormat.record shape ⟨depth, .array items fault⟩ = pure record ↔
      ∃ inner rest, inside depth = pure inner ∧
        Shape.ofItems (Place.absentField shape fault) 0 shape.fields shape.blank (items.map fun tree => ⟨inner, tree⟩) =
          pure (record, rest) ∧ rest.isEmpty ∧ closed fault = pure () := by
  constructor
  · intro h
    obtain ⟨inner, deep, h⟩ := Peels.bind_eq_pure h
    obtain ⟨⟨result, rest⟩, reads, h⟩ := Peels.bind_eq_pure h
    simp only at h
    split at h
    · obtain ⟨_, refused, -⟩ := Peels.bind_eq_pure h
      cases refused
    · next none =>
      obtain ⟨_, complete, made⟩ := Peels.bind_eq_pure h
      obtain rfl := Peels.pure_inj made
      exact ⟨inner, rest, deep, reads, by simpa using none, complete⟩
  · rintro ⟨inner, rest, deep, reads, none, complete⟩
    simp only [dataFormat, Place.record, deep, pure_bind, reads, none, complete]
    rfl

theorem record_object_eq_pure_iff {members : List (Lexeme × Tree)} :
    dataFormat.record shape ⟨depth, .object members fault⟩ = pure record ↔
      ∃ inner, inside depth = pure inner ∧
        Shape.ofMembers (fun key : Lexeme => key.read.map shape.field?) (fun place => place.tree.skip)
          (fun name => throw (.misfit (.repeatedField name))) [] shape.blank
          (members.map fun member => (member.1, (⟨inner, member.2⟩ : Place))) = pure record ∧
        closed fault = pure () :=
  content_eq_pure_iff

end Records

/-! ### Typed values and entries -/

def typedMember (depth : Nat) (member : Lexeme × Tree) : Except ReadError (Value × Value) := do
  let name ← member.1.read
  let value ← readTyped depth member.2
  return (.text name, value)

theorem readTypedItems_eq_mapM (depth : Nat) (items : List Tree) :
    readTypedItems depth items = items.mapM (readTyped depth) := by
  induction items with
  | nil => rfl
  | cons item items ih => rw [readTypedItems, List.mapM_cons, ih]

theorem readTypedMembers_eq_mapM (depth : Nat) (members : List (Lexeme × Tree)) :
    readTypedMembers depth members = members.mapM (typedMember depth) := by
  induction members with
  | nil => rfl
  | cons member members ih =>
    rw [readTypedMembers, List.mapM_cons, ih]
    simp [typedMember]

theorem readTyped_array_eq_pure_iff {depth : Nat} {items : List Tree} {fault : Option Fault} {value : Value} :
    readTyped depth (.array items fault) = pure value ↔
      ∃ inner values, inside depth = pure inner ∧ items.mapM (readTyped inner) = pure values ∧ closed fault = pure () ∧
        .list values = value := by
  rw [readTyped]
  simp only [readTypedItems_eq_mapM]
  exact container_eq_pure_iff

theorem readTyped_object_eq_pure_iff {depth : Nat} {members : List (Lexeme × Tree)} {fault : Option Fault}
    {value : Value} :
    readTyped depth (.object members fault) = pure value ↔
      ∃ inner values, inside depth = pure inner ∧ members.mapM (typedMember inner) = pure values ∧
        closed fault = pure () ∧ .map values = value := by
  rw [readTyped]
  simp only [readTypedMembers_eq_mapM]
  exact container_eq_pure_iff

theorem entry_eq_pure_iff {place : Place} {entry : Entry} :
    dataFormat.entry place = pure entry ↔
      ∃ value, readTyped place.depth place.tree = pure value ∧ Entry.ofValue? value = some entry := by
  constructor
  · intro h
    obtain ⟨value, typed, found⟩ := Peels.bind_eq_pure h
    refine ⟨value, typed, ?_⟩
    cases judged : Entry.ofValue? value with
    | none =>
      rw [judged] at found
      cases found
    | some other =>
      rw [judged] at found
      rw [Peels.pure_inj found]
  · rintro ⟨value, typed, found⟩
    have read : dataFormat.value place = pure value := typed
    rw [DataFormat.entry, read, pure_bind, found]

end SwaggerSdk.Json
