import SwaggerSdk.Proofs.Model.Names

/-!
# Models do not show the order of their source

A document may list its paths and its shared parameters in any order: `ofDocument_perm` says that the model
is the same. References find what they name in any order, the claims are the same set, and the endpoints are
sorted by names that tell them apart.
-/

namespace SwaggerSdk

/-- The same document with its paths and its shared parameters listed otherwise. -/
def Document.relisted (document : Document) (paths : Table String PathItem) (parameters : Table String Parameter) :
    Document :=
  { document with paths := paths, parameters := parameters }

namespace Document

variable {document : Document} {paths : Table String PathItem} {parameters : Table String Parameter}

/-! ### References -/

theorem resolve_relisted (perm : parameters.entries.Perm document.parameters.entries) (entries : List Entry) :
    (document.relisted paths parameters).resolve entries = document.resolve entries := by
  have found : (document.relisted paths parameters).parameters.get? = document.parameters.get? :=
    funext fun _ => lookup_perm parameters.distinct perm
  unfold resolve
  congr 1
  funext entry
  cases entry with
  | inline parameter => rfl
  | reference target => rw [resolveEntry, resolveEntry, found]

theorem endpoint_relisted (perm : parameters.entries.Perm document.parameters.entries) (name : String)
    (slot : Slot) : (document.relisted paths parameters).endpoint name slot = document.endpoint name slot := by
  unfold endpoint parametersOf
  rw [resolve_relisted perm, resolve_relisted perm]

/-! ### Names -/

theorem slots_relisted (perm : paths.entries.Perm document.paths.entries) :
    (document.relisted paths parameters).slots.Perm document.slots := perm.flatMap_right _

theorem finalName_relisted (perm : paths.entries.Perm document.paths.entries) (slot : Slot) :
    (document.relisted paths parameters).finalName slot = document.finalName slot := by
  unfold finalName
  refine Naming.publishedName_perm ?_ _ _
  exact ((slots_relisted perm).filter _).map _

theorem endpoints_relisted (pathsPerm : paths.entries.Perm document.paths.entries)
    (parametersPerm : parameters.entries.Perm document.parameters.entries) :
    (Model.ofDocument (document.relisted paths parameters)).endpoints = (Model.ofDocument document).endpoints := by
  refine ascending_ext (ascending_endpoints _) (ascending_endpoints _) fun endpoint => ?_
  rw [mem_endpoints, mem_endpoints]
  simp only [(slots_relisted pathsPerm).mem_iff, finalName_relisted pathsPerm, endpoint_relisted parametersPerm]

end Document

/-- The order of the paths and of the shared parameters does not show in the model. -/
theorem ofDocument_perm (document : Document) (paths : Table String PathItem)
    (parameters : Table String Parameter) (pathsPerm : paths.entries.Perm document.paths.entries)
    (parametersPerm : parameters.entries.Perm document.parameters.entries) :
    Model.ofDocument (document.relisted paths parameters) = Model.ofDocument document := by
  exact congrArg (Model.mk document.displayTitle (Text.trimmed (document.basePath.getD "")))
    (Document.endpoints_relisted pathsPerm parametersPerm)

def Parameter.ofQuery (name : String) : Parameter :=
  { Parameter.blank with name := name, location := .known .query }

/-- Three operations that refer to two shared parameters. -/
def Document.paged : Document :=
  { Document.crowded with
    parameters := ⟨[("limit", .ofQuery "limit"), ("start", .ofQuery "start"), ("offset", .ofQuery "start")], by decide⟩ }

theorem ofDocument_paged_perm :
    [("/a", PathItem.listing), ("/cabahe", .listing), ("/humora", .listing)].Perm Document.paged.paths.entries ∧
    [("offset", Parameter.ofQuery "start"), ("limit", .ofQuery "limit"), ("start", .ofQuery "start")].Perm
      Document.paged.parameters.entries ∧
    Model.ofDocument (Document.paged.relisted
        ⟨[("/a", .listing), ("/cabahe", .listing), ("/humora", .listing)], by decide⟩
        ⟨[("offset", .ofQuery "start"), ("limit", .ofQuery "limit"), ("start", .ofQuery "start")], by decide⟩) =
      Model.ofDocument .paged := by
  have paths : [("/a", PathItem.listing), ("/cabahe", .listing), ("/humora", .listing)].Perm
      Document.paged.paths.entries :=
    List.perm_append_singleton ("/humora", PathItem.listing) [("/a", .listing), ("/cabahe", .listing)]
  have parameters : [("offset", Parameter.ofQuery "start"), ("limit", .ofQuery "limit"),
      ("start", .ofQuery "start")].Perm Document.paged.parameters.entries := by decide +kernel
  exact ⟨paths, parameters, ofDocument_perm .paged ⟨_, by decide⟩ ⟨_, by decide⟩ paths parameters⟩

end SwaggerSdk
