import SwaggerSdk.Proofs.Model.ParameterOrder

/-!
# Where the parameters of an endpoint come from

An operation inherits the parameters of its path, unless it declares the same name at the same location itself:
then its own declarations stand in their place, all of them and no other. `endpoint_shows_declared` says so of every
endpoint of a model, for each name, through references and repeated declarations.
-/

namespace SwaggerSdk

/-! ### Own and shared parameters -/

namespace Parameter

variable {shared own parameters : List Parameter} {location : KnownLocation} {name : String}

def isAt (location : KnownLocation) (name : String) (parameter : Parameter) : Bool :=
  parameter.location == .known location && parameter.name == name

theorem isAt_iff {parameter : Parameter} :
    parameter.isAt location name = true ↔ parameter.location = .known location ∧ parameter.name = name := by
  simp [isAt]

theorem replaces_iff {parameter other : Parameter} :
    parameter.replaces other = true ↔ parameter.name = other.name ∧ parameter.location = other.location := by
  simp [replaces]

/-- Parameters that can take each other's place are selected together. -/
theorem filter_merge {p : Parameter → Bool} (together : ∀ a b : Parameter, a.replaces b = true → p a = p b) :
    (merge shared own).filter p = merge (shared.filter p) (own.filter p) := by
  unfold merge
  rw [List.filter_append, List.filter_filter, List.filter_filter]
  congr 1
  refine List.filter_congr fun parameter _ => ?_
  cases selected : p parameter with
  | false => simp
  | true =>
    have same : ∀ other : Parameter, (p other && other.replaces parameter) = other.replaces parameter := by
      intro other
      cases replaced : other.replaces parameter with
      | false => exact Bool.and_false _
      | true => rw [together other parameter replaced, selected, Bool.and_self]
    rw [List.any_filter, funext same, Bool.true_and, Bool.and_true]

theorem merge_isAt (allShared : ∀ parameter ∈ shared, parameter.isAt location name = true)
    (allOwn : ∀ parameter ∈ own, parameter.isAt location name = true) :
    merge shared own = if own = [] then shared else own := by
  unfold merge
  cases own with
  | nil => simp
  | cons first others =>
    have replaced : (shared.filter fun parameter => !(first :: others).any (·.replaces parameter)) = [] := by
      refine List.filter_eq_nil_iff.mpr fun parameter member => ?_
      obtain ⟨location, name⟩ := isAt_iff.mp (allShared parameter member)
      obtain ⟨location', name'⟩ := isAt_iff.mp (allOwn first List.mem_cons_self)
      have takes : first.replaces parameter = true :=
        replaces_iff.mpr ⟨name'.trans name.symm, location'.trans location.symm⟩
      simp [takes]
    rw [replaced, List.nil_append, if_neg (List.cons_ne_nil _ _)]

theorem filter_isAt_merge : (merge shared own).filter (·.isAt location name) =
    if own.filter (·.isAt location name) = [] then shared.filter (·.isAt location name)
    else own.filter (·.isAt location name) := by
  have together : ∀ a b : Parameter, a.replaces b = true → a.isAt location name = b.isAt location name := by
    intro a b replaced
    obtain ⟨names, locations⟩ := replaces_iff.mp replaced
    simp only [isAt, names, locations]
  rw [filter_merge together]
  exact merge_isAt (fun _ member => (List.mem_filter.mp member).2) (fun _ member => (List.mem_filter.mp member).2)

theorem any_isBody_merge : (merge shared own).any (·.isBody) = (shared.any (·.isBody) || own.any (·.isBody)) := by
  rw [Bool.eq_iff_iff, Bool.or_eq_true, merge, List.any_append, Bool.or_eq_true]
  constructor
  · rintro (inherited | declared)
    · rw [List.any_filter] at inherited
      obtain ⟨parameter, member, both⟩ := List.any_eq_true.mp inherited
      exact .inl (List.any_eq_true.mpr ⟨parameter, member, (Bool.and_eq_true_iff.mp both).2⟩)
    · exact .inr declared
  · rintro (inherited | declared)
    · obtain ⟨parameter, member, body⟩ := List.any_eq_true.mp inherited
      cases replaced : own.any (·.replaces parameter) with
      | false =>
        refine .inl (List.any_eq_true.mpr ⟨parameter, List.mem_filter.mpr ⟨member, ?_⟩, body⟩)
        rw [replaced]
        rfl
      | true =>
        -- what takes the place of a body is at the same location, so it is a body too
        obtain ⟨other, member', takes⟩ := List.any_eq_true.mp replaced
        refine .inr (List.any_eq_true.mpr ⟨other, member', ?_⟩)
        simpa only [isBody, (replaces_iff.mp takes).2] using body
    · exact .inr declared

theorem filter_located (location : KnownLocation) (name : String) :
    (located location parameters).filter (·.name == name) = (parameters.filter (·.isAt location name)).map toParam := by
  rw [located, filter_mergeSort_key Param.name name, List.filter_map, List.filter_filter]
  congr 1
  refine List.filter_congr fun parameter _ => ?_
  exact Bool.and_comm _ _

/-! ### Parameters that show nowhere -/

def isPlaced (parameter : Parameter) : Bool :=
  [Location.known .path, .known .query, .known .body, .known .formData].contains parameter.location

theorem located_filter_isPlaced {location : KnownLocation} (placed : location = .path ∨ location = .query)
    (parameters : List Parameter) :
    located location (parameters.filter isPlaced) = located location parameters := by
  unfold located
  rw [List.filter_filter]
  congr 2
  refine List.filter_congr fun parameter _ => ?_
  cases here : parameter.location == .known location with
  | false => rfl
  | true =>
    rw [Bool.true_and, isPlaced, eq_of_beq here]
    rcases placed with rfl | rfl <;> rfl

theorem any_isBody_filter_isPlaced (parameters : List Parameter) :
    (parameters.filter isPlaced).any (·.isBody) = parameters.any (·.isBody) := by
  rw [List.any_filter]
  refine congrArg (List.any _) (funext fun parameter => ?_)
  cases body : parameter.isBody with
  | false => exact Bool.and_false _
  | true =>
    rw [Bool.and_true, isPlaced]
    simp only [isBody, Bool.or_eq_true, beq_iff_eq] at body
    rcases body with body | body <;> rw [body] <;> rfl

end Parameter

/-! ### Declarations -/

namespace Document

variable (document : Document)

/-- Whether a parameter is required, for each entry that declares one of this name at this location. -/
def declared (location : KnownLocation) (name : String) (entries : List Entry) : List Bool :=
  entries.filterMap fun entry => (document.resolveEntry entry).bind fun parameter =>
    if parameter.location = .known location ∧ parameter.name = name then some parameter.required else none

/-- The declarations of an operation itself, or those of its path if it has none. -/
def inForce (location : KnownLocation) (name : String) (slot : Slot) : List Bool :=
  match document.declared location name slot.operation.parameters with
  | [] => document.declared location name slot.item.parameters
  | own => own

theorem map_required_resolve (location : KnownLocation) (name : String) (entries : List Entry) :
    ((document.resolve entries).filter (·.isAt location name)).map (·.required) =
      document.declared location name entries := by
  induction entries with
  | nil => rfl
  | cons entry entries ih =>
    unfold resolve declared at ih ⊢
    rw [List.filterMap_cons, List.filterMap_cons]
    cases found : document.resolveEntry entry with
    | none => exact ih
    | some parameter =>
      simp only [Option.bind_some]
      by_cases here : parameter.location = .known location ∧ parameter.name = name
      · rw [if_pos here, List.filter_cons_of_pos (Parameter.isAt_iff.mpr here), List.map_cons, ih]
      · rw [if_neg here, List.filter_cons_of_neg (fun isAt => here (Parameter.isAt_iff.mp isAt)), ih]

theorem map_required_located (location : KnownLocation) (name : String) (slot : Slot) :
    ((Parameter.located location (document.parametersOf slot)).filter (·.name == name)).map (·.required) =
      document.inForce location name slot := by
  have own := document.map_required_resolve location name slot.operation.parameters
  have shared := document.map_required_resolve location name slot.item.parameters
  rw [Parameter.filter_located, List.map_map, parametersOf, Parameter.filter_isAt_merge, inForce, ← own, ← shared]
  split
  · next none => rw [none]; rfl
  · next some =>
    obtain ⟨first, others, listed⟩ := List.exists_cons_of_ne_nil some
    rw [listed]
    rfl

theorem hasBody_endpoint_iff (name : String) (slot : Slot) :
    (document.endpoint name slot).hasBody = true ↔
      ∃ entry ∈ slot.operation.parameters ++ slot.item.parameters, ∃ parameter,
        document.resolveEntry entry = some parameter ∧
          (parameter.location = .known .body ∨ parameter.location = .known .formData) := by
  have body : ∀ entries, (document.resolve entries).any (·.isBody) = true ↔
      ∃ entry ∈ entries, ∃ parameter, document.resolveEntry entry = some parameter ∧
        (parameter.location = .known .body ∨ parameter.location = .known .formData) := by
    intro entries
    simp only [List.any_eq_true, resolve, List.mem_filterMap, Parameter.isBody, Bool.or_eq_true, beq_iff_eq]
    constructor
    · rintro ⟨parameter, ⟨entry, member, found⟩, placed⟩
      exact ⟨entry, member, parameter, found, placed⟩
    · rintro ⟨entry, member, parameter, found, placed⟩
      exact ⟨parameter, ⟨entry, member, found⟩, placed⟩
  change (document.parametersOf slot).any (·.isBody) = true ↔ _
  rw [parametersOf, Parameter.any_isBody_merge, Bool.or_eq_true, body, body]
  simp only [List.mem_append, or_and_right, exists_or, or_comm]

/-- An operation on its path with only the entries for parameters in the path, the query or the body. -/
def shown (slot : Slot) : Slot where
  route := slot.route
  item := { slot.item with
    parameters := slot.item.parameters.filter fun entry => (document.resolveEntry entry).any Parameter.isPlaced }
  operation := { slot.operation with
    parameters := slot.operation.parameters.filter fun entry => (document.resolveEntry entry).any Parameter.isPlaced }

theorem resolve_filter_placed (entries : List Entry) :
    document.resolve (entries.filter fun entry => (document.resolveEntry entry).any Parameter.isPlaced) =
      (document.resolve entries).filter Parameter.isPlaced := by
  unfold resolve
  rw [List.filterMap_filter, List.filter_filterMap]
  refine List.filterMap_congr fun entry _ => ?_
  cases document.resolveEntry entry with
  | none => rfl
  | some parameter => cases placed : parameter.isPlaced <;> simp [Option.filter, placed]

theorem parametersOf_shown (slot : Slot) :
    document.parametersOf (document.shown slot) = (document.parametersOf slot).filter Parameter.isPlaced := by
  have together : ∀ a b : Parameter, a.replaces b = true → a.isPlaced = b.isPlaced := by
    intro a b replaced
    simp only [Parameter.isPlaced, (Parameter.replaces_iff.mp replaced).2]
  unfold parametersOf
  rw [Parameter.filter_merge together]
  exact congrArg₂ _ (document.resolve_filter_placed _) (document.resolve_filter_placed _)

theorem endpoint_shown (name : String) (slot : Slot) :
    document.endpoint name (document.shown slot) = document.endpoint name slot := by
  simp only [endpoint, parametersOf_shown, Parameter.located_filter_isPlaced (.inl rfl),
    Parameter.located_filter_isPlaced (.inr rfl), Parameter.any_isBody_filter_isPlaced]
  rfl

end Document

/-- What the endpoint of an operation shows of the parameters that the operation and its path declare. -/
theorem endpoint_shows_declared (document : Document) {slot : Slot}
    (listed : (slot.route.path, slot.item) ∈ document.paths.entries)
    (present : slot.item.operation slot.route.method = some slot.operation) :
    ∃ endpoint ∈ (Model.ofDocument document).endpoints, endpoint.route = slot.route ∧
      (∀ other ∈ (Model.ofDocument document).endpoints, other.route = slot.route → other = endpoint) ∧
      endpoint.Sorted ∧
      (∀ name, (endpoint.pathParams.filter (·.name == name)).map (·.required) =
        document.inForce .path name slot) ∧
      (∀ name, (endpoint.queryParams.filter (·.name == name)).map (·.required) =
        document.inForce .query name slot) ∧
      (endpoint.hasBody = true ↔ ∃ entry ∈ slot.operation.parameters ++ slot.item.parameters, ∃ parameter,
        document.resolveEntry entry = some parameter ∧
          (parameter.location = .known .body ∨ parameter.location = .known .formData)) ∧
      document.endpoint endpoint.name (document.shown slot) = endpoint := by
  have member : slot ∈ document.slots := document.mem_slots.mpr ⟨listed, present⟩
  have offered := document.mem_endpoints.mpr ⟨slot, member, rfl⟩
  refine ⟨_, offered, rfl, ?_, sorted_params offered, ?_, ?_, ?_, ?_⟩
  · intro other offered' same
    obtain ⟨slot', member', rfl⟩ := document.mem_endpoints.mp offered'
    obtain rfl := document.slot_unique member' member same
    rfl
  · intro name
    exact document.map_required_located .path name slot
  · intro name
    exact document.map_required_located .query name slot
  · exact document.hasBody_endpoint_iff _ slot
  · exact document.endpoint_shown _ slot

/-- A path that shares four parameters, and an operation on it that declares one of them anew, twice. -/
def Slot.inheriting : Slot :=
  let operation : Operation := { Operation.blank with
    parameters := [.reference "#/parameters/limit", .inline ⟨"verbose", .ofName "QUERY", none, true, none⟩,
      .reference "#/parameters/missing", .inline ⟨"verbose", .ofName "query", none, false, none⟩,
      .inline ⟨"id", .ofName "header", none, false, none⟩] }
  { route := ⟨.get, "/orders/{id}"⟩
    item := PathItem.setOperation .get (some operation) { PathItem.blank with
      parameters := [.inline ⟨"id", .ofName "path", none, true, none⟩, .inline ⟨"verbose", .ofName "query", none, false, none⟩,
        .reference "#/parameters/limit", .inline ⟨"file", .ofName "formdata", none, true, none⟩] }
    operation := operation }

def Document.inheriting : Document :=
  { Document.blank with
    paths := ⟨[("/orders/{id}", Slot.inheriting.item)], List.nodup_singleton _⟩
    parameters := ⟨[("limit", .ofQuery "limit")], List.nodup_singleton _⟩ }

theorem endpoint_shows_declared_inheriting :
    (Slot.inheriting.route.path, Slot.inheriting.item) ∈ Document.inheriting.paths.entries ∧
    Slot.inheriting.item.operation .get = some Slot.inheriting.operation ∧
    ∃ endpoint ∈ (Model.ofDocument .inheriting).endpoints, endpoint.route = ⟨.get, "/orders/{id}"⟩ ∧
      (endpoint.pathParams.filter (·.name == "id")).map (·.required) = [true] ∧
      (endpoint.queryParams.filter (·.name == "verbose")).map (·.required) = [true, false] ∧
      (endpoint.queryParams.filter (·.name == "limit")).map (·.required) = [false] ∧
      endpoint.hasBody = true := by
  have listed : (Slot.inheriting.route.path, Slot.inheriting.item) ∈ Document.inheriting.paths.entries :=
    List.mem_singleton.mpr rfl
  obtain ⟨endpoint, offered, route, -, -, path, query, body, -⟩ :=
    @endpoint_shows_declared .inheriting .inheriting listed rfl
  refine ⟨listed, rfl, endpoint, offered, route, (path "id").trans ?_, (query "verbose").trans ?_,
    (query "limit").trans ?_, body.mpr ?_⟩
  · decide +kernel
  · decide +kernel
  · decide +kernel
  · exact ⟨.inline ⟨"file", .ofName "formdata", none, true, none⟩, by decide +kernel, _, rfl, .inr (by decide +kernel)⟩

end SwaggerSdk
