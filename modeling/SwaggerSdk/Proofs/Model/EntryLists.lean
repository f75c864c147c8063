import Mathlib.Data.List.Forall2
import SwaggerSdk.Model.Build

/-!
# Documents that differ in their lists of parameters

Two documents that are the same but for the lists of parameters of their paths and operations make the same claims
on names. If their operations have the same parameters in the end, they have the same model
(`Document.Edited.ofDocument_eq`).
-/

namespace SwaggerSdk

section Edited

variable (related : List Entry → List Entry → Prop)

structure Operation.Edited (operation operation' : Operation) : Prop where
  id : operation.id = operation'.id
  summary : operation.summary = operation'.summary
  description : operation.description = operation'.description
  parameters : related operation.parameters operation'.parameters

structure PathItem.Edited (item item' : PathItem) : Prop where
  parameters : related item.parameters item'.parameters
  operation : ∀ method, Option.Rel (Operation.Edited related) (item.operation method) (item'.operation method)

/-- The same document, with related lists of parameters at its paths and operations. -/
structure Document.Edited (document document' : Document) : Prop where
  swagger : document.swagger = document'.swagger
  openapi : document.openapi = document'.openapi
  info : document.info = document'.info
  host : document.host = document'.host
  basePath : document.basePath = document'.basePath
  parameters : document.parameters = document'.parameters
  paths : List.Forall₂ (fun entry entry' => entry.1 = entry'.1 ∧ entry.2.Edited related entry'.2)
    document.paths.entries document'.paths.entries

structure Slot.Edited (slot slot' : Slot) : Prop where
  route : slot.route = slot'.route
  item : slot.item.Edited related slot'.item
  operation : slot.operation.Edited related slot'.operation

end Edited

variable {related : List Entry → List Entry → Prop} {document document' : Document}

theorem PathItem.Edited.operations {item item' : PathItem} (edited : item.Edited related item') :
    List.Forall₂ (fun pair pair' => pair.1 = pair'.1 ∧ pair.2.Edited related pair'.2)
      item.operations item'.operations := by
  refine List.rel_filterMap (R := Eq) (fun method _ same => ?_) (List.forall₂_eq_eq_eq ▸ rfl)
  subst same
  have both := edited.operation method
  revert both
  generalize item.operation method = operation?, item'.operation method = operation?'
  rintro (both | _)
  · exact .some ⟨rfl, both⟩
  · exact .none

namespace Document.Edited

theorem slots (edited : document.Edited related document') :
    List.Forall₂ (Slot.Edited related) document.slots document'.slots := by
  refine List.rel_flatMap edited.paths fun entry entry' ⟨path, item⟩ => ?_
  refine List.forall₂_map_left_iff.mpr (List.forall₂_map_right_iff.mpr (item.operations.imp ?_))
  rintro ⟨method, operation⟩ ⟨method', operation'⟩ ⟨same, both⟩
  cases same
  exact ⟨congrArg (Route.mk method) path, item, both⟩

/-- What is the same for related operations is the same list for all of them. -/
theorem map_slots {α : Type} {f g : Slot → α} (edited : document.Edited related document')
    (same : ∀ slot slot', slot.Edited related slot' → f slot = g slot') :
    document.slots.map f = document'.slots.map g :=
  List.forall₂_eq_eq_eq ▸
    List.forall₂_map_left_iff.mpr (List.forall₂_map_right_iff.mpr (edited.slots.imp same))

theorem claims (edited : document.Edited related document') : document.claims = document'.claims :=
  congrArg Naming.Claims.ofList
    (edited.map_slots fun slot slot' both => by rw [both.route, both.operation.id])

theorem displayTitle (edited : document.Edited related document') : document'.displayTitle = document.displayTitle := by
  rw [Document.displayTitle, ← edited.info, Document.displayTitle]

theorem resolveEntry (edited : document.Edited related document') : document.resolveEntry = document'.resolveEntry := by
  funext entry
  cases entry with
  | inline parameter => rfl
  | reference target => rw [Document.resolveEntry, Document.resolveEntry, edited.parameters]

/-- Lists of entries that leave every operation with the same parameters do not show in the model. -/
theorem ofDocument_eq (edited : document.Edited related document')
    (same : ∀ slot slot', slot.Edited related slot' → document.parametersOf slot = document'.parametersOf slot') :
    Model.ofDocument document' = Model.ofDocument document := by
  have endpoints := edited.map_slots
    (f := fun slot => document.endpoint ((document.claims.resolve.lookup slot.route.key).getD "") slot)
    (g := fun slot => document'.endpoint ((document'.claims.resolve.lookup slot.route.key).getD "") slot)
    fun slot slot' both => by
      simp only [endpoint, same slot slot' both, both.route, both.operation.summary, both.operation.description,
        edited.claims]
  simp only [Model.ofDocument, edited.displayTitle, ← edited.basePath, ← endpoints]

end Document.Edited

end SwaggerSdk
