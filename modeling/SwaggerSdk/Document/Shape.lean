import SwaggerSdk.Datum
import SwaggerSdk.Document.Basic

/-!
# The shape of a document

Which fields each record of a document has and what they hold, told once for all data formats. A format
says how it reads a text, a flag, a list, a table and a record; the shapes say what is read. `σ` is a
place in the text that is being read and `m` the monad in which reading may fail.
-/

namespace SwaggerSdk

structure Field (m : Type → Type) (σ ρ : Type) where
  name : String
  hasDefault : Bool
  read : σ → m (ρ → ρ)

/-- A record: its name, what it is before any field is read, and its fields. -/
structure Shape (m : Type → Type) (σ ρ : Type) where
  label : String
  blank : ρ
  fields : List (Field m σ ρ)

structure DataFormat (m : Type → Type) (σ : Type) where
  text : σ → m String
  flag : σ → m Bool
  optional {α : Type} : (σ → m α) → σ → m (Option α)
  list {α : Type} : (σ → m α) → σ → m (List α)
  /-- A table; names whose last value is null are left out. -/
  table {α : Type} : (σ → m α) → σ → m (Table String α)
  record {ρ : Type} : Shape m σ ρ → σ → m ρ
  value : σ → m Value
  noEntry : m Entry

namespace Shape

variable {m : Type → Type} [Monad m] {κ σ ρ : Type}

def field? (shape : Shape m σ ρ) (name : String) : Option (Field m σ ρ) :=
  shape.fields.find? (·.name == name)

/-- Reads a record from its members. Members that are no field are passed over, and `repeated` refuses a
field that comes twice. -/
def ofMembers (fieldOf : κ → m (Option (Field m σ ρ))) (skip : σ → m Unit)
    (repeated : String → m Unit) : List String → ρ → List (κ × σ) → m ρ
  | _, record, [] => pure record
  | seen, record, (key, place) :: members => do
    match ← fieldOf key with
    | none =>
      skip place
      ofMembers fieldOf skip repeated seen record members
    | some field =>
      if seen.contains field.name then repeated field.name
      let set ← field.read place
      ofMembers fieldOf skip repeated (field.name :: seen) (set record) members

/-- Reads a record from a list of its fields' values, and says which items are left. `absent` judges a
field that the list ends before, given its index. -/
def ofItems (absent : Nat → Field m σ ρ → m Unit) :
    Nat → List (Field m σ ρ) → ρ → List σ → m (ρ × List σ)
  | _, [], record, items => pure (record, items)
  | index, field :: fields, record, [] => do
    absent index field
    ofItems absent (index + 1) fields record []
  | index, field :: fields, record, place :: items => do
    let set ← field.read place
    ofItems absent (index + 1) fields (set record) items

end Shape

namespace Value

def record? {ρ : Type} (shape : Shape Option Value ρ) : Value → Option ρ
  | map members =>
    let fieldOf : Value → Option (Option (Field Option Value ρ))
      | text name => some (shape.field? name)
      -- a number stands for the field at that index
      | unsigned index => some shape.fields[index]?
      | _ => none
    Shape.ofMembers fieldOf (fun _ => some ()) (fun _ => none) [] shape.blank members
  | list items => do
    let absent (_ : Nat) (field : Field Option Value ρ) : Option Unit :=
      if field.hasDefault then some () else none
    let (record, rest) ← Shape.ofItems absent 0 shape.fields shape.blank items
    if rest.isEmpty then some record else none
  | _ => none

def text? : Value → Option String
  | text value => some value
  | _ => none

def flag? : Value → Option Bool
  | flag value => some value
  | _ => none

def optional? {α : Type} (read : Value → Option α) : Value → Option (Option α)
  | null => some none
  | value => (read value).map some

end Value

section Records

variable {m : Type → Type} [Monad m] {σ ρ α : Type}

/-- A field that always has a value: `blank` holds what it is by default. -/
def Field.plain (name : String) (read : σ → m α) (set : α → ρ → ρ) : Field m σ ρ :=
  ⟨name, true, fun place => set <$> read place⟩

def Field.nullable (name : String) (read : σ → m (Option α)) (set : Option α → ρ → ρ) : Field m σ ρ :=
  ⟨name, false, fun place => set <$> read place⟩

def Parameter.shape (text : σ → m String) (flag : σ → m Bool) (optionalText : σ → m (Option String)) :
    Shape m σ Parameter where
  label := "Parameter"
  blank := .blank
  fields := [
    .plain "name" text fun name parameter => { parameter with name },
    .plain "in" text fun name parameter => { parameter with location := .ofName name },
    .nullable "description" optionalText fun description parameter => { parameter with description },
    .plain "required" flag fun required parameter => { parameter with required },
    .nullable "type" optionalText fun type parameter => { parameter with type }]

def referenceShape : Shape Option Value (Option String) where
  label := "Ref"
  blank := none
  fields := [⟨"$ref", false, fun value => value.text?.map fun target _ => some target⟩]

namespace Value

/-- The target of a reference; only a map can be one. -/
def reference? : Value → Option String
  | map members => (record? referenceShape (map members)).join
  | _ => none

def parameter? (value : Value) : Option Parameter :=
  record? (Parameter.shape text? flag? (optional? text?)) value

end Value

/-- The entry that a value is: a reference if it can be one, else a parameter. -/
def Entry.ofValue? (value : Value) : Option Entry :=
  match value.reference? with
  | some target => some (.reference target)
  | none => value.parameter?.map .inline

namespace DataFormat

variable (format : DataFormat m σ)

def optionalText : σ → m (Option String) := format.optional format.text

def parameter : σ → m Parameter :=
  format.record (Parameter.shape format.text format.flag format.optionalText)

def entry (place : σ) : m Entry := do
  -- the whole value is read before it is judged
  match Entry.ofValue? (← format.value place) with
  | some entry => pure entry
  | none => format.noEntry

def entries (place : σ) : m (List Entry) :=
  -- null entries are left out
  (·.filterMap id) <$> format.list (format.optional format.entry) place

def operation : σ → m Operation := format.record {
  label := "Operation"
  blank := .blank
  fields := [
    .nullable "operationId" format.optionalText fun id operation => { operation with id },
    .nullable "summary" format.optionalText fun summary operation => { operation with summary },
    .nullable "description" format.optionalText fun description operation =>
      { operation with description },
    .plain "parameters" format.entries fun parameters operation => { operation with parameters }] }

def operationField (method : Method) : Field m σ PathItem :=
  .nullable (String.ofList method.lowerName) (format.optional format.operation)
    (PathItem.setOperation method)

def pathItem : σ → m PathItem := format.record {
  label := "PathItem"
  blank := .blank
  fields :=
    .plain "parameters" format.entries (fun parameters item => { item with parameters }) ::
      Method.all.map format.operationField }

def info : σ → m Info := format.record {
  label := "Info"
  blank := .blank
  fields := [
    .plain "title" format.text fun title info => { info with title },
    .nullable "description" format.optionalText fun description info => { info with description },
    .nullable "version" format.optionalText fun version info => { info with version }] }

def document : σ → m Document := format.record {
  label := "SwaggerSpec"
  blank := .blank
  fields := [
    .nullable "swagger" format.optionalText fun swagger document => { document with swagger },
    .nullable "openapi" format.optionalText fun openapi document => { document with openapi },
    .plain "info" format.info fun info document => { document with info },
    .nullable "host" format.optionalText fun host document => { document with host },
    .nullable "basePath" format.optionalText fun basePath document => { document with basePath },
    .plain "paths" (format.table format.pathItem) fun paths document => { document with paths },
    .plain "parameters" (format.table format.parameter) fun parameters document =>
      { document with parameters }] }

end DataFormat

end Records

end SwaggerSdk
