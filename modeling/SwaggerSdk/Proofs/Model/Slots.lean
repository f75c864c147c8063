import SwaggerSdk.Model.Build
import SwaggerSdk.Proofs.Naming.CandidateShape
import SwaggerSdk.Proofs.Naming.ClosedForm

/-!
# The operations of a document and their names

The operations of a document have distinct routes, and distinct routes have distinct keys. So a document
claims one candidate for each operation, and the name that resolving finds for it is read off the keys of
the operations that want the same candidate.
-/

namespace SwaggerSdk

/-! ### Keys of routes -/

theorem Method.name_inj {method method' : Method} (h : method.name = method'.name) : method = method' := by
  cases method <;> cases method' <;> first | rfl | (exact absurd h (by decide))

theorem Method.space_notMem_name (method : Method) : ' ' ∉ method.name.toList := by
  cases method <;> decide

theorem Route.key_inj {route route' : Route} (h : route.key = route'.key) : route = route' := by
  obtain ⟨method, path⟩ := route
  obtain ⟨method', path'⟩ := route'
  have chars := congrArg String.toList h
  simp only [Route.key, String.toList_append, List.append_assoc, show " ".toList = [' '] from rfl,
    List.cons_append, List.nil_append] at chars
  obtain ⟨methods, paths⟩ :=
    Naming.append_cons_inj method.space_notMem_name method'.space_notMem_name chars
  obtain rfl := Method.name_inj (String.toList_inj.mp methods)
  obtain rfl := String.toList_inj.mp paths
  rfl

namespace Slot

def candidate (slot : Slot) : String := Naming.candidate slot.route slot.operation.id

end Slot

namespace Document

variable (document : Document)

/-! ### Slots -/

theorem mem_slots {slot : Slot} :
    slot ∈ document.slots ↔ (slot.route.path, slot.item) ∈ document.paths.entries ∧
      slot.item.operation slot.route.method = some slot.operation := by
  simp only [slots, List.mem_flatMap, List.mem_map, Prod.exists, PathItem.mem_operations]
  constructor
  · rintro ⟨path, item, entry, method, operation, present, rfl⟩
    exact ⟨entry, present⟩
  · rintro ⟨entry, present⟩
    exact ⟨_, _, entry, _, _, present, rfl⟩

theorem nodup_operations (item : PathItem) : (item.operations.map (·.1)).Nodup := by
  have methods : Method.all.Nodup := by decide
  refine List.Sublist.nodup ?_ methods
  unfold PathItem.operations
  generalize Method.all = all
  induction all with
  | nil => exact List.nil_sublist _
  | cons method all ih =>
    rw [List.filterMap_cons]
    cases item.operation method with
    | none => exact List.Sublist.cons _ ih
    | some operation => exact List.Sublist.cons_cons _ ih

theorem nodup_routes : (document.slots.map (·.route)).Nodup := by
  unfold slots
  rw [List.map_flatMap, List.nodup_flatMap]
  refine ⟨fun entry _ => ?_, (List.pairwise_map.mp document.paths.distinct).imp fun different route h h' => ?_⟩
  · rw [List.map_map]
    have injective : Function.Injective (Route.mk · entry.1) := fun _ _ same => (Route.mk.inj same).1
    have routes := (nodup_operations entry.2).map injective
    rw [List.map_map] at routes
    exact routes
  · simp only [List.map_map, List.mem_map] at h h'
    obtain ⟨operation, -, rfl⟩ := h
    obtain ⟨operation', -, same⟩ := h'
    exact different (congrArg Route.path same).symm

theorem slot_unique {slot slot' : Slot} (h : slot ∈ document.slots) (h' : slot' ∈ document.slots)
    (same : slot.route = slot'.route) : slot = slot' :=
  List.inj_on_of_nodup_map document.nodup_routes h h' same

/-! ### The claims of a document -/

theorem nodup_claimed_keys :
    ((document.slots.map fun slot => (slot.route.key, slot.candidate)).map (·.1)).Nodup := by
  have keys := document.nodup_routes.map fun route route' => Route.key_inj
  rw [List.map_map] at keys ⊢
  exact keys

theorem mem_claims {entry : String × String} :
    entry ∈ document.claims.entries ↔ ∃ slot ∈ document.slots, (slot.route.key, slot.candidate) = entry := by
  rw [claims]
  refine (Naming.Claims.mem_ofList_of_distinct document.nodup_claimed_keys).trans ?_
  exact List.mem_map

theorem plain_claims : ∀ entry ∈ document.claims.entries, '_' ∉ entry.2.toList := by
  intro entry member
  obtain ⟨slot, -, rfl⟩ := document.mem_claims.mp member
  exact Naming.underscore_notMem_candidate _ _

/-- The keys of the operations that want a candidate. -/
def keysWanting (candidate : String) : List String :=
  (document.slots.filter (·.candidate == candidate)).map (·.route.key)

theorem mem_keysWanting {candidate key : String} :
    key ∈ document.keysWanting candidate ↔
      ∃ slot ∈ document.slots, slot.candidate = candidate ∧ slot.route.key = key := by
  simp [keysWanting, and_assoc]

theorem nodup_keysWanting (candidate : String) : (document.keysWanting candidate).Nodup := by
  have keys := document.nodup_claimed_keys
  rw [List.map_map] at keys
  exact keys.sublist (List.filter_sublist.map _)

theorem claimants_perm (candidate : String) :
    (document.claims.claimants candidate).Perm (document.keysWanting candidate) := by
  have distinct := nodup_of_ascending (document.claims.ascending_claimants candidate)
  rw [List.map_id] at distinct
  refine (List.perm_ext_iff_of_nodup distinct (document.nodup_keysWanting candidate)).mpr fun key => ?_
  rw [Naming.Claims.mem_claimants, mem_claims, mem_keysWanting]
  simp only [Prod.mk.injEq, and_comm]

/-- The name of an operation among those of its document. -/
def finalName (slot : Slot) : String :=
  Naming.publishedName (document.keysWanting slot.candidate) slot.candidate slot.route.key

theorem lookup_resolve_claims {slot : Slot} (h : slot ∈ document.slots) :
    document.claims.resolve.lookup slot.route.key = some (document.finalName slot) := by
  have claimed := document.mem_claims.mpr ⟨slot, h, rfl⟩
  rw [Naming.Claims.lookup_resolve_eq document.plain_claims claimed, finalName,
    Naming.publishedName_perm (document.claimants_perm _)]

theorem finalName_inj {slot slot' : Slot} (h : slot ∈ document.slots) (h' : slot' ∈ document.slots)
    (same : document.finalName slot = document.finalName slot') : slot = slot' := by
  have given := document.claims.lookup_resolve_iff.mp (document.lookup_resolve_claims h)
  have given' := document.claims.lookup_resolve_iff.mp (document.lookup_resolve_claims h')
  have entries := List.inj_on_of_nodup_map document.claims.nodup_names_assign given given' same
  exact document.slot_unique h h' (Route.key_inj (congrArg Prod.fst entries))

end Document

end SwaggerSdk
