import SwaggerSdk.Proofs.Model.Slots

/-!
# The names in a model

Each operation of a document becomes one endpoint, under an identifier that is not reserved and that no other
endpoint has, and the endpoints ascend by name. `nameOf?_eq_publishedName` gives the name of an operation in
closed form: only the keys of the operations that want the same candidate count.
-/

namespace SwaggerSdk

/-- The name under which a model offers a route. -/
def Model.nameOf? (model : Model) (route : Route) : Option String :=
  (model.endpoints.find? (·.route == route)).map (·.name)

/-! ### The endpoints of a document -/

namespace Document

variable (document : Document)

theorem endpoints_perm :
    (Model.ofDocument document).endpoints.Perm
      (document.slots.map fun slot => document.endpoint (document.finalName slot) slot) := by
  refine (List.mergeSort_perm _ _).trans (List.Perm.of_eq (List.map_congr_left fun slot member => ?_))
  rw [document.lookup_resolve_claims member, Option.getD_some]

theorem mem_endpoints {endpoint : Endpoint} :
    endpoint ∈ (Model.ofDocument document).endpoints ↔
      ∃ slot ∈ document.slots, document.endpoint (document.finalName slot) slot = endpoint := by
  rw [document.endpoints_perm.mem_iff, List.mem_map]

theorem ascending_endpoints : Ascending Endpoint.name (Model.ofDocument document).endpoints := by
  refine ascending_mergeSort ?_
  have slots : document.slots.Nodup := document.nodup_routes.of_map
  rw [List.map_map]
  refine slots.map_on fun slot h slot' h' same => document.finalName_inj h h' ?_
  simpa only [Function.comp_apply, endpoint, document.lookup_resolve_claims h,
    document.lookup_resolve_claims h', Option.getD_some] using same

theorem routes_endpoints_perm :
    ((Model.ofDocument document).endpoints.map (·.route)).Perm (document.slots.map (·.route)) := by
  refine (document.endpoints_perm.map _).trans (List.Perm.of_eq ?_)
  rw [List.map_map]
  rfl

theorem nameOf?_slot {slot : Slot} (h : slot ∈ document.slots) :
    (Model.ofDocument document).nameOf? slot.route = some (document.finalName slot) := by
  unfold Model.nameOf?
  cases found : (Model.ofDocument document).endpoints.find? (·.route == slot.route) with
  | none =>
    have absent := List.find?_eq_none.mp found _ (document.mem_endpoints.mpr ⟨slot, h, rfl⟩)
    simp [endpoint] at absent
  | some endpoint =>
    obtain ⟨slot', h', rfl⟩ := document.mem_endpoints.mp (List.mem_of_find?_eq_some found)
    have same : slot'.route = slot.route := by simpa [Document.endpoint] using List.find?_some found
    rw [document.slot_unique h' h same]
    rfl

end Document

/-! ### The shape of names -/

theorem Naming.isIdentifier_publishedName (keys : List String) (key : String) (route : Route)
    (id? : Option String) : isIdentifier (publishedName keys (candidate route id?) key) = true := by
  have camel := isCamel_candidate route id?
  unfold isIdentifier publishedName
  split
  · have bare := isIdentifierChars_append camel fun c (h : c ∈ []) => absurd h List.not_mem_nil
    rwa [List.append_nil] at bare
  · rw [String.append_assoc, String.append_assoc, String.toList_append]
    refine isIdentifierChars_append camel fun c h => ?_
    simp only [String.toList_append, List.mem_append] at h
    rcases h with h | h | h
    · have same : c = '_' := by simpa using h
      rw [same]
      decide
    · exact isWordChar_of_mem_shortDigest h
    · exact isWordChar_of_mem_counter h

theorem Naming.isReserved_publishedName (keys : List String) (key : String) (route : Route)
    (id? : Option String) : isReserved (publishedName keys (candidate route id?) key) = false := by
  unfold publishedName
  split
  · exact isReserved_candidate route id?
  · exact not_isReserved_of_mem (underscore_mem_renamed _ key _) (by decide)

/-! ### What a model promises of its names -/

/-- Every operation of a document becomes one endpoint, under a lawful name of its own. -/
theorem endpoints_lawfully_named (document : Document) :
    (∀ endpoint ∈ (Model.ofDocument document).endpoints,
      Naming.isIdentifier endpoint.name = true ∧ Naming.isReserved endpoint.name = false) ∧
    ((Model.ofDocument document).endpoints.map (·.name)).Nodup ∧
    (Model.ofDocument document).endpoints.Pairwise (fun a b => a.name < b.name) ∧
    ((Model.ofDocument document).endpoints.map (·.route)).Nodup ∧
    ∀ route, route ∈ (Model.ofDocument document).endpoints.map (·.route) ↔
      ∃ item operation, (route.path, item) ∈ document.paths.entries ∧
        item.operation route.method = some operation := by
  have ascending := document.ascending_endpoints
  refine ⟨fun endpoint member => ?_, nodup_of_ascending ascending, ascending, ?_, fun route => ?_⟩
  · obtain ⟨slot, -, rfl⟩ := document.mem_endpoints.mp member
    exact ⟨Naming.isIdentifier_publishedName _ _ _ _, Naming.isReserved_publishedName _ _ _ _⟩
  · exact document.routes_endpoints_perm.nodup_iff.mpr document.nodup_routes
  · rw [document.routes_endpoints_perm.mem_iff, List.mem_map]
    constructor
    · rintro ⟨slot, member, rfl⟩
      exact ⟨slot.item, slot.operation, document.mem_slots.mp member⟩
    · rintro ⟨item, operation, present⟩
      exact ⟨⟨route, item, operation⟩, document.mem_slots.mpr present, rfl⟩

/-- The name of an operation, read off the keys of the operations that want the same candidate. A counter
stands in it only if another of these keys has the same digest. -/
theorem nameOf?_eq_publishedName (document : Document) {slot : Slot} (h : slot ∈ document.slots) :
    (Model.ofDocument document).nameOf? slot.route =
      some (Naming.publishedName (document.keysWanting slot.candidate) slot.candidate slot.route.key) ∧
    ∀ n : Nat, (Model.ofDocument document).nameOf? slot.route =
        some (slot.candidate ++ "__" ++ shortDigest slot.route.key ++ "_" ++ toString n) →
      ∃ other ∈ document.slots, other.candidate = slot.candidate ∧ other.route.key < slot.route.key ∧
        shortDigest other.route.key = shortDigest slot.route.key := by
  have name := document.nameOf?_slot h
  refine ⟨name, fun n counted => ?_⟩
  have published : document.finalName slot = _ := Option.some.inj (name.symm.trans counted)
  obtain ⟨key, wanted, below, digests⟩ :=
    Naming.exists_collision_of_counter (Naming.underscore_notMem_candidate _ _) published
  obtain ⟨other, member, wants, rfl⟩ := document.mem_keysWanting.mp wanted
  exact ⟨other, member, wants, below, digests⟩

def Operation.listing : Operation :=
  { Operation.blank with
    id := some "list"
    parameters := [.reference "#/parameters/offset", .reference "#/parameters/limit"] }

def PathItem.listing : PathItem := PathItem.blank.setOperation .get (some .listing)

def Operation.unnamed : Operation := { Operation.blank with id := some " " }

def PathItem.unnamed : PathItem := PathItem.blank.setOperation .get (some .unnamed)

/-- Three operations want the same name, and the keys of the last two have the same digest. -/
def Document.crowded : Document :=
  { Document.blank with
    paths := ⟨[("/humora", .listing), ("/a", .listing), ("/cabahe", .listing)], by decide⟩ }

theorem nameOf?_third_listing :
    (⟨⟨.get, "/humora"⟩, .listing, .listing⟩ : Slot) ∈ Document.crowded.slots ∧
    (Model.ofDocument .crowded).nameOf? ⟨.get, "/humora"⟩ = some "list__5dde792c_2" := by
  have member : (⟨⟨.get, "/humora"⟩, .listing, .listing⟩ : Slot) ∈ Document.crowded.slots :=
    Document.crowded.mem_slots.mpr ⟨List.mem_cons_self, rfl⟩
  exact ⟨member, (nameOf?_eq_publishedName .crowded member).1.trans (by decide +kernel)⟩

end SwaggerSdk
