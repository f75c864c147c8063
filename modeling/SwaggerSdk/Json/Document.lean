import SwaggerSdk.Document.Shape
import SwaggerSdk.Json.Error
import SwaggerSdk.Json.Reading

/-!
# Documents in JSON

The tree of a text as a data format. A record is an object, or an array of its fields' values. The first
problem in the order of the text is the one that is reported, whether the text stops being JSON there or
has another shape than a document.
-/

namespace SwaggerSdk.Json

/-- A place in a text: the tree there, and how many containers deep it may be. -/
structure Place where
  depth : Nat
  tree : Tree

def depthLimit : Nat := 128

def inside (depth : Nat) : Except ReadError Nat :=
  if depth ≤ 1 then throw .malformed else return depth - 1

def closed : Option Fault → Except ReadError Unit
  | none => .ok ()
  | some fault => .error fault.whenUsed

namespace Place

def text (place : Place) : Except ReadError String :=
  match place.tree with
  | .text lexeme => lexeme.read
  | tree => tree.refuse "a string"

def flag (place : Place) : Except ReadError Bool :=
  match place.tree with
  | .flag value => .ok value
  | tree => tree.refuse "a boolean"

def optional {α : Type} (read : Place → Except ReadError α) (place : Place) : Except ReadError (Option α) :=
  match place.tree with
  | .null => .ok none
  | _ => (read place).map some

def list {α : Type} (read : Place → Except ReadError α) (place : Place) : Except ReadError (List α) :=
  match place.tree with
  | .array items fault => do
    let depth ← inside place.depth
    let values ← items.mapM fun tree => read ⟨depth, tree⟩
    closed fault
    return values
  | tree => tree.refuse "a sequence"

def readMembers {α : Type} (read : Place → Except ReadError α) (depth : Nat)
    (members : List (Lexeme × Tree)) : Except ReadError (List (String × α)) :=
  members.mapM fun member => do
    let name ← member.1.read
    let value ← read ⟨depth, member.2⟩
    return (name, value)

def table {α : Type} (read : Place → Except ReadError α) (place : Place) : Except ReadError (Table String α) :=
  match place.tree with
  | .object members fault => do
    let depth ← inside place.depth
    let entries ← readMembers (optional read) depth members
    closed fault
    return (Table.ofList entries).present
  | tree => tree.refuse "a map"

def absentField {ρ : Type} (shape : Shape (Except ReadError) Place ρ) (fault : Option Fault) (index : Nat)
    (field : Field (Except ReadError) Place ρ) : Except ReadError Unit := do
  closed fault
  if !field.hasDefault then throw (.misfit (.tooShort index shape.label shape.fields.length))

def record {ρ : Type} (shape : Shape (Except ReadError) Place ρ) (place : Place) : Except ReadError ρ :=
  match place.tree with
  | .object members fault => do
    let depth ← inside place.depth
    let fieldOf (key : Lexeme) := key.read.map shape.field?
    let repeated (name : String) := throw (.misfit (.repeatedField name))
    let record ← Shape.ofMembers fieldOf (fun place => place.tree.skip) repeated [] shape.blank
      (members.map fun member => (member.1, ⟨depth, member.2⟩))
    closed fault
    return record
  | .array items fault => do
    let depth ← inside place.depth
    let places := items.map fun tree => (⟨depth, tree⟩ : Place)
    let (record, rest) ← Shape.ofItems (absentField shape fault) 0 shape.fields shape.blank places
    if !rest.isEmpty then throw .malformed
    closed fault
    return record
  | tree => tree.refuse ("struct " ++ shape.label)

end Place

def Number.typed : Number → Value
  | unsigned value => .unsigned value
  | signed _ | float _ _ => .number

mutual

def readTyped (depth : Nat) : Tree → Except ReadError Value
  | .null => .ok .null
  | .flag value => .ok (.flag value)
  | .number numeral => numeral.read.map Number.typed
  | .text lexeme => lexeme.read.map .text
  | .array items fault => do
    let depth ← inside depth
    let values ← readTypedItems depth items
    closed fault
    return .list values
  | .object members fault => do
    let depth ← inside depth
    let values ← readTypedMembers depth members
    closed fault
    return .map values
  | .broken fault => .error fault.whenUsed

def readTypedItems (depth : Nat) : List Tree → Except ReadError (List Value)
  | [] => .ok []
  | item :: items => do
    let value ← readTyped depth item
    let values ← readTypedItems depth items
    return value :: values

def readTypedMembers (depth : Nat) : List (Lexeme × Tree) → Except ReadError (List (Value × Value))
  | [] => .ok []
  | (key, tree) :: members => do
    let name ← key.read
    let value ← readTyped depth tree
    let values ← readTypedMembers depth members
    return (.text name, value) :: values

end

def dataFormat : DataFormat (Except ReadError) Place where
  text := Place.text
  flag := Place.flag
  optional := Place.optional
  list := Place.list
  table := Place.table
  record := Place.record
  value place := readTyped place.depth place.tree
  noEntry := throw (.misfit .noEntry)

def readDocument (text : String) : Except ReadError Document := do
  let (tree, isWhole) := Tree.ofText text
  let document ← dataFormat.document ⟨depthLimit, tree⟩
  if !isWhole then throw .malformed
  return document

end SwaggerSdk.Json
