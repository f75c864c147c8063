import SwaggerSdk.Proofs.Document.Loading
import SwaggerSdk.Proofs.Json.WrittenPlaces
import SwaggerSdk.Proofs.Model.Slots

/-!
# Documents are read as they are written

Record by record, what is read from the written fields of a record is that record: the fields are written in the order
of its shape, those that are left out are what the blank record holds, and nothing is nested deeper than the reader
goes. With the round trip of texts this gives `ofText_write_toDatum`.
-/

namespace SwaggerSdk

/-! ### Parameters -/

namespace Parameter

def toFields (parameter : Parameter) : List (String × Datum) :=
  [("name", .text parameter.name)] ++ ([("in", .text parameter.location.name)] ++
    (Datum.presentText "description" parameter.description ++ ([("required", .flag parameter.required)] ++
      Datum.presentText "type" parameter.type)))

theorem toDatum_eq_toFields (parameter : Parameter) : parameter.toDatum = .record parameter.toFields := by
  simp [toDatum, toFields]

/-- A parameter is read back from what it is written as, be it from places or from typed values. -/
theorem fills_toFields {m : Type → Type} [Monad m] [LawfulMonad m] {κ σ : Type}
    {reading : MemberReading m κ σ Parameter} {text : σ → m String} {flag : σ → m Bool}
    {optionalText : σ → m (Option String)} (shape : reading.shape = Parameter.shape text flag optionalText)
    (knows : reading.Knows)
    (texts : ∀ value, text (reading.placeOf (.text value)) = pure value)
    (flags : ∀ value, flag (reading.placeOf (.flag value)) = pure value)
    (optionalTexts : ∀ value, optionalText (reading.placeOf (.text value)) = pure (some value))
    (parameter : Parameter) : ∃ names, reading.Fills names parameter.toFields .blank parameter := by
  -- the location is the one field that is not written as it is
  have makes : ({ parameter with location := .ofName parameter.location.name } : Parameter) = parameter := by
    rw [Location.ofName_name]
  have found : ∀ name, reading.shape.field? name = (Parameter.shape text flag optionalText).field? name :=
    fun name => by rw [shape]
  exact ⟨_, .append (.plain knows (found "name") (texts parameter.name) rfl) <| .append
    (.plain knows (found "in") (texts parameter.location.name) rfl) <| .append
    (.nullable knows (found "description") (fun x _ => optionalTexts x) rfl rfl) <| .append
    (.plain knows (found "required") (flags parameter.required) rfl)
    (.nullable knows (found "type") (fun x _ => optionalTexts x) rfl makes)⟩

theorem isScalar_toFields (parameter : Parameter) : ∀ field ∈ parameter.toFields, field.2.IsScalar := by
  have texts (name : String) (value : Option String) : ∀ field ∈ Datum.presentText name value, field.2.IsScalar := by
    cases value <;> simp [Datum.presentText, Datum.present, Datum.IsScalar]
  simp only [toFields, List.forall_mem_append, List.forall_mem_singleton]
  exact ⟨trivial, trivial, texts _ _, trivial, texts _ _⟩

def valueReading : MemberReading Option Value Value Parameter where
  shape := shape Value.text? Value.flag? (Value.optional? Value.text?)
  fieldOf
    | .text name => some ((shape Value.text? Value.flag? (Value.optional? Value.text?)).field? name)
    | .unsigned index => some (shape Value.text? Value.flag? (Value.optional? Value.text?)).fields[index]?
    | _ => none
  skip _ := some ()
  repeated _ := none
  keyOf := .text
  placeOf := Datum.typed

theorem parameter?_typedFields (parameter : Parameter) :
    Value.parameter? (.map (Datum.typedFields parameter.toFields)) = some parameter := by
  have knows : valueReading.Knows := fun _ => rfl
  obtain ⟨names, fills⟩ := fills_toFields rfl knows (fun _ => rfl) (fun _ => rfl) (fun _ => rfl) parameter
  exact fills.ofMembers_eq

theorem reference?_typedFields (parameter : Parameter) :
    Value.reference? (.map (Datum.typedFields parameter.toFields)) = none := by
  unfold toFields
  cases parameter.description <;> cases parameter.type <;> rfl

end Parameter

namespace Json

variable {depth : Nat}

theorem parameter_placeOf (parameter : Parameter) (deep : 1 < depth) :
    dataFormat.parameter (placeOf depth parameter.toDatum) = pure parameter := by
  obtain ⟨names, fills⟩ := Parameter.fills_toFields rfl (knows_objectReading (Parameter.shape _ _ _) (depth - 1))
    text_placeOf flag_placeOf optionalText_placeOf parameter
  rw [Parameter.toDatum_eq_toFields]
  exact record_placeOf deep fills

theorem entry_placeOf (entry : Entry) (deep : 1 < depth) :
    dataFormat.entry (placeOf depth entry.toDatum) = pure entry := by
  rw [entry_eq_pure_iff]
  cases entry with
  | reference target =>
    have scalars : ∀ field ∈ [("$ref", Datum.text target)], field.2.IsScalar := by simp [Datum.IsScalar]
    exact ⟨_, readTyped_record deep scalars, rfl⟩
  | inline parameter =>
    rw [Entry.toDatum, Parameter.toDatum_eq_toFields]
    refine ⟨_, readTyped_record deep parameter.isScalar_toFields, ?_⟩
    rw [Entry.ofValue?, Parameter.reference?_typedFields, Parameter.parameter?_typedFields]
    rfl

theorem entries_placeOf (entries : List Entry) (deep : 2 < depth) :
    dataFormat.entries (placeOf depth (.list (entries.map Entry.toDatum))) = pure entries := by
  have list : dataFormat.list (dataFormat.optional dataFormat.entry)
      (placeOf depth (.list (entries.map Entry.toDatum))) = pure (entries.map some) :=
    list_placeOf (by omega) fun entry _ => optional_placeOf (entry_placeOf entry (by omega))
  rw [DataFormat.entries, list, map_pure]
  simp

theorem fills_entries {ρ : Type} {shape : Shape (Except ReadError) Place ρ} {set : List Entry → ρ → ρ}
    {before after : ρ} (entries : List Entry) (deep : 2 < depth)
    (found : shape.field? "parameters" = some (.plain "parameters" dataFormat.entries set))
    (empty : set [] before = before) (makes : set entries before = after) :
    (objectReading shape depth).Fills ["parameters"]
      (Datum.presentList "parameters" (entries.map Entry.toDatum)) before after := by
  cases entries with
  | nil =>
    rw [← makes, empty]
    exact .none _ _
  | cons entry entries => exact .plain (knows_objectReading _ _) found (entries_placeOf _ deep) makes

/-! ### Operations -/

theorem operation_placeOf (operation : Operation) (deep : 3 < depth) :
    dataFormat.operation (placeOf depth operation.toDatum) = pure operation := by
  rw [Operation.toDatum, List.append_assoc, List.append_assoc]
  apply record_placeOf (by omega)
  exact .append (fills_text rfl rfl rfl) <| .append (fills_text rfl rfl rfl) <| .append (fills_text rfl rfl rfl)
    (fills_entries operation.parameters (by omega) rfl rfl rfl)

end Json

/-! ### Path items -/

theorem Method.lowerName_inj {method method' : Method}
    (same : String.ofList method.lowerName = String.ofList method'.lowerName) : method = method' := by
  cases method <;> cases method' <;> first | rfl | exact absurd same (by decide)

theorem Method.lowerName_ne_parameters (method : Method) : String.ofList method.lowerName ≠ "parameters" := by
  cases method <;> decide

namespace PathItem

def withOperations (item : PathItem) (operations : List (Method × Operation)) : PathItem :=
  operations.foldl (fun item entry => item.setOperation entry.1 (some entry.2)) item

theorem parameters_withOperations (item : PathItem) (operations : List (Method × Operation)) :
    (item.withOperations operations).parameters = item.parameters := by
  induction operations generalizing item with
  | nil => rfl
  | cons entry operations ih => exact ih _

theorem operation_withOperations_of_notMem {item : PathItem} {operations : List (Method × Operation)} {method : Method}
    (absent : method ∉ operations.map (·.1)) :
    (item.withOperations operations).operation method = item.operation method := by
  induction operations generalizing item with
  | nil => rfl
  | cons entry operations ih =>
    rw [List.map_cons, List.mem_cons, not_or] at absent
    exact (ih absent.2).trans (if_neg absent.1)

theorem operation_withOperations {item : PathItem} {operations : List (Method × Operation)} {method : Method}
    {operation : Operation} (distinct : (operations.map (·.1)).Nodup) (member : (method, operation) ∈ operations) :
    (item.withOperations operations).operation method = some operation := by
  induction operations generalizing item with
  | nil => cases member
  | cons entry operations ih =>
    obtain ⟨fresh, distinct⟩ := List.nodup_cons.mp distinct
    rcases List.mem_cons.mp member with rfl | later
    · exact (operation_withOperations_of_notMem fresh).trans (if_pos rfl)
    · exact ih distinct later

theorem withOperations_operations (item : PathItem) :
    withOperations { item with operation := fun _ => none } item.operations = item := by
  have distinct := Document.nodup_operations item
  have operation : ∀ method, (withOperations { item with operation := fun _ => none } item.operations).operation
      method = item.operation method := by
    intro method
    cases present : item.operation method with
    | none =>
      refine operation_withOperations_of_notMem fun listed => ?_
      obtain ⟨⟨_, other⟩, member, rfl⟩ := List.mem_map.mp listed
      rw [mem_operations.mp member] at present
      cases present
    | some operation => exact operation_withOperations distinct (mem_operations.mpr present)
  have parameters := parameters_withOperations { item with operation := fun _ => none } item.operations
  calc withOperations { item with operation := fun _ => none } item.operations
      = ⟨(withOperations { item with operation := fun _ => none } item.operations).parameters,
          (withOperations { item with operation := fun _ => none } item.operations).operation⟩ := rfl
    _ = item := by rw [parameters, funext operation]

end PathItem

namespace Json

variable {depth : Nat}

section Operations

variable {shape : Shape (Except ReadError) Place PathItem} {before after : PathItem}

theorem fills_operation {method : Method} {operation : Operation} (deep : 3 < depth)
    (found : shape.field? (String.ofList method.lowerName) = some (dataFormat.operationField method)) :
    (objectReading shape depth).Fills [String.ofList method.lowerName]
      [(String.ofList method.lowerName, operation.toDatum)] before (before.setOperation method (some operation)) := by
  have reads : (dataFormat.operationField method).read (placeOf depth operation.toDatum) =
      pure (PathItem.setOperation method (some operation)) := by
    have value := optional_placeOf (operation_placeOf operation deep)
    exact congrArg (PathItem.setOperation method <$> ·) value
  exact .field (knows_objectReading shape depth) found rfl reads

theorem fills_operations {operations : List (Method × Operation)} (deep : 3 < depth)
    (found : ∀ method : Method, shape.field? (String.ofList method.lowerName) = some (dataFormat.operationField method))
    (distinct : (operations.map (·.1)).Nodup) (makes : before.withOperations operations = after) :
    (objectReading shape depth).Fills (operations.map fun entry => String.ofList entry.1.lowerName)
      (operations.map fun entry => (String.ofList entry.1.lowerName, entry.2.toDatum)) before after := by
  induction operations generalizing before with
  | nil =>
    rw [← makes]
    exact .none _ _
  | cons entry operations ih =>
    obtain ⟨fresh, distinct⟩ := List.nodup_cons.mp distinct
    have apart : List.Disjoint [String.ofList entry.1.lowerName]
        (operations.map fun entry => String.ofList entry.1.lowerName) := by
      rw [List.singleton_disjoint]
      intro again
      obtain ⟨other, member, same⟩ := List.mem_map.mp again
      exact fresh (List.mem_map.mpr ⟨other, member, Method.lowerName_inj same⟩)
    exact .append (fills_operation deep (found entry.1)) (ih distinct makes) apart

end Operations

theorem pathItem_placeOf (item : PathItem) (deep : 4 < depth) :
    dataFormat.pathItem (placeOf depth item.toDatum) = pure item := by
  have apart : List.Disjoint ["parameters"] (item.operations.map fun entry => String.ofList entry.1.lowerName) := by
    rw [List.singleton_disjoint]
    intro named
    obtain ⟨entry, -, same⟩ := List.mem_map.mp named
    exact Method.lowerName_ne_parameters entry.1 same
  rw [PathItem.toDatum]
  apply record_placeOf (by omega)
  exact .append (fills_entries item.parameters (by omega) rfl rfl rfl)
    (fills_operations (by omega) (fun method => by cases method <;> rfl) (Document.nodup_operations item)
      item.withOperations_operations) apart

/-! ### Documents -/

theorem info_placeOf (info : Info) (deep : 1 < depth) : dataFormat.info (placeOf depth info.toDatum) = pure info := by
  apply record_placeOf deep
  change (objectReading _ _).Fills _ ([("title", .text info.title)] ++
    (Datum.presentText "description" info.description ++ Datum.presentText "version" info.version)) _ _
  exact .append (.plain (knows_objectReading _ _) rfl (text_placeOf info.title) rfl) <| .append
    (fills_text rfl rfl rfl) (fills_text rfl rfl rfl)

theorem document_placeOf (document : Document) (deep : 6 < depth) :
    dataFormat.document (placeOf depth document.toDatum) = pure document := by
  rw [Document.toDatum]
  simp only [List.append_assoc]
  apply record_placeOf (by omega)
  exact .append (fills_text rfl rfl rfl) <| .append (fills_text rfl rfl rfl) <| .append
    (.plain (knows_objectReading _ _) rfl (info_placeOf document.info (by omega)) rfl) <| .append
    (fills_text rfl rfl rfl) <| .append (fills_text rfl rfl rfl) <| .append
    (fills_table document.paths (by omega) (fun item => pathItem_placeOf item (by omega)) rfl rfl rfl)
    (fills_table document.parameters (by omega) (fun parameter => parameter_placeOf parameter (by omega)) rfl rfl rfl)

/-- A document is read back from the text that it is written as. -/
theorem readDocument_write (document : Document) : readDocument (write document.toDatum) = .ok document := by
  rw [readDocument_eq_ok_iff, ofText_write]
  exact ⟨document_placeOf document (by decide), rfl⟩

end Json

/-- What has been loaded, from either format, is loaded again from the JSON that it is written as. -/
theorem ofText_write_toDatum {format : TextFormat} {text : String} {document : Document}
    (loaded : Document.ofText format text = .ok document) :
    Document.ofText .json (Json.write document.toDatum) = .ok document :=
  Document.ofText_json_eq_ok_iff.mpr ⟨Json.readDocument_write document, Document.foreignVersion?_of_ofText loaded⟩

/-- A text with arrays in place of records, an escape, null entries and an unknown member. -/
def Document.looseText : String :=
  "\x7b\"x-y\":0,\"paths\":\x7b\"/a\\u002fb\":\x7b\"get\":[null,\"all\",null,[null,\x7b\"in\":\"QUERY\"\x7d]]\x7d,\"/c\":null\x7d," ++
    "\"info\":[\"Shop\",null,null]\x7d"

/-- How a document that is loaded from it is written. -/
def Document.strictText : String :=
  "\x7b\"info\":\x7b\"title\":\"Shop\"\x7d,\"paths\":\x7b\"/a/b\":\x7b\"get\":\x7b\"summary\":\"all\"," ++
    "\"parameters\":[\x7b\"name\":\"\",\"in\":\"query\",\"required\":false\x7d]\x7d\x7d\x7d\x7d"

theorem ofText_write_loose : ∃ document, Document.ofText .json Document.looseText = .ok document ∧
    Json.write document.toDatum = Document.strictText ∧ Document.ofText .json Document.strictText = .ok document := by
  have written : (Document.ofText .json Document.looseText).toOption.map (fun document => Json.write document.toDatum) =
      some Document.strictText := by decide +kernel
  cases loaded : Document.ofText .json Document.looseText with
  | error cause =>
    rw [loaded] at written
    cases written
  | ok document =>
    rw [loaded] at written
    have text : Json.write document.toDatum = Document.strictText := Option.some.inj written
    exact ⟨document, rfl, text, text ▸ ofText_write_toDatum loaded⟩

end SwaggerSdk
