import SwaggerSdk.Proofs.Document.Loading
import SwaggerSdk.Proofs.Json.ReorderedPlaces
import SwaggerSdk.Proofs.Json.Writing
import SwaggerSdk.Proofs.Model.SourceOrder

/-!
# Documents whose members stand in another order

The records of a document are steady, so a text with the members of its objects in another order is read as the same
document, up to the order of the entries of its tables. That order does not show in the model either, so
`ofText_reordered` gives one model for both texts.
-/

namespace SwaggerSdk

/-! ### The records of a document -/

namespace Json

theorem optionalText_carries : Carries Place.Alike Eq dataFormat.optionalText := optional_carries text_carries

theorem entries_carries : Carries Place.Alike Eq dataFormat.entries := by
  intro place place' alike entries reads
  obtain ⟨all, listed, rfl⟩ := Peels.map_eq_pure reads
  obtain ⟨_, listed', rfl⟩ := list_carries (optional_carries entry_carries) alike listed
  exact ⟨_, congrArg (Except.map _) listed', rfl⟩

theorem parameter_carries : Carries Place.Alike Eq dataFormat.parameter :=
  record_carries (fun _ => rfl) (Parameter.steady text_carries flag_carries optionalText_carries)

theorem info_carries : Carries Place.Alike Eq dataFormat.info := by
  refine record_carries (fun _ => rfl) ⟨rfl, ?_, ?_⟩
  · simp only [List.forall_mem_cons]
    exact ⟨Field.carries_eq_of_set text_carries, Field.carries_eq_of_set optionalText_carries,
      Field.carries_eq_of_set optionalText_carries, by simp⟩
  · simp [Field.plain, Field.nullable, Field.commutes_of_set]

theorem operation_carries : Carries Place.Alike Eq dataFormat.operation := by
  refine record_carries (fun _ => rfl) ⟨rfl, ?_, ?_⟩
  · simp only [List.forall_mem_cons]
    exact ⟨Field.carries_eq_of_set optionalText_carries, Field.carries_eq_of_set optionalText_carries,
      Field.carries_eq_of_set optionalText_carries, Field.carries_eq_of_set entries_carries, by simp⟩
  · simp [Field.plain, Field.nullable, Field.commutes_of_set]

theorem pathItem_carries : Carries Place.Alike Eq dataFormat.pathItem := by
  refine record_carries (fun _ => rfl) ⟨rfl, ?_, ?_⟩
  · rw [List.forall_mem_cons, List.forall_mem_map]
    exact ⟨Field.carries_eq_of_set entries_carries, fun method _ =>
      Field.carries_eq_of_set (optional_carries operation_carries)⟩
  · exact PathItem.fields_commute dataFormat

end Json

/-- The same document, but for the order of its paths and of its shared parameters. -/
structure Document.Relists (document document' : Document) : Prop where
  swagger : document.swagger = document'.swagger
  openapi : document.openapi = document'.openapi
  info : document.info = document'.info
  host : document.host = document'.host
  basePath : document.basePath = document'.basePath
  paths : document.paths.entries.Perm document'.paths.entries
  parameters : document.parameters.entries.Perm document'.parameters.entries

theorem Document.Relists.refl (document : Document) : document.Relists document :=
  ⟨rfl, rfl, rfl, rfl, rfl, .refl _, .refl _⟩

theorem Json.document_carries : Carries Place.Alike Document.Relists dataFormat.document := by
  refine record_carries .refl ⟨.refl _, ?_, ?_⟩
  · simp only [List.forall_mem_cons]
    exact ⟨Field.carries_of_set optionalText_carries fun _ _ same _ _ relists => { relists with swagger := same },
      Field.carries_of_set optionalText_carries fun _ _ same _ _ relists => { relists with openapi := same },
      Field.carries_of_set info_carries fun _ _ same _ _ relists => { relists with info := same },
      Field.carries_of_set optionalText_carries fun _ _ same _ _ relists => { relists with host := same },
      Field.carries_of_set optionalText_carries fun _ _ same _ _ relists => { relists with basePath := same },
      Field.carries_of_set (table_carries pathItem_carries) fun _ _ perm _ _ relists => { relists with paths := perm },
      Field.carries_of_set (table_carries parameter_carries) fun _ _ perm _ _ relists =>
        { relists with parameters := perm },
      by simp⟩
  · simp [Field.plain, Field.nullable, Field.commutes_of_set]

namespace Document

theorem Relists.eq_relisted {document document' : Document} (relists : document.Relists document') :
    document' = document.relisted document'.paths document'.parameters := by
  obtain ⟨swagger, openapi, info, host, basePath, -, -⟩ := relists
  cases document
  cases document'
  simp_all [relisted]

theorem Relists.foreignVersion?_eq {document document' : Document} (relists : document.Relists document') :
    document'.foreignVersion? = document.foreignVersion? := by
  rw [foreignVersion?, foreignVersion?, relists.swagger, relists.openapi]

end Document

/-- A text whose objects have no key twice is read as the same document, up to the order of its paths and of its
shared parameters, however the members of its objects are ordered; the model is the same. -/
theorem ofText_reordered {text text' : String} {document : Document}
    (loaded : Document.ofText .json text = .ok document)
    (distinct : (Json.Tree.ofText text).1.hasDistinctKeys)
    (reordered : (Json.Tree.ofText text).1.Reordered (Json.Tree.ofText text').1)
    (isWhole : (Json.Tree.ofText text').2) :
    ∃ paths parameters, paths.entries.Perm document.paths.entries ∧
      parameters.entries.Perm document.parameters.entries ∧
      Document.ofText .json text' = .ok (document.relisted paths parameters) ∧
      Model.ofDocument (document.relisted paths parameters) = Model.ofDocument document := by
  obtain ⟨reads, understood⟩ := Document.ofText_json_eq_ok_iff.mp loaded
  have alike : Json.Place.Alike ⟨Json.depthLimit, (Json.Tree.ofText text).1⟩
      ⟨Json.depthLimit, (Json.Tree.ofText text').1⟩ := ⟨rfl, reordered, distinct⟩
  obtain ⟨document', reads', relists⟩ := Json.document_carries alike (Json.readDocument_eq_ok_iff.mp reads).1
  have loaded' : Document.ofText .json text' = .ok document' := Document.ofText_json_eq_ok_iff.mpr
    ⟨Json.readDocument_eq_ok_iff.mpr ⟨reads', isWhole⟩, relists.foreignVersion?_eq.trans understood⟩
  rw [relists.eq_relisted] at loaded'
  refine ⟨document'.paths, document'.parameters, relists.paths.symm, relists.parameters.symm, loaded', ?_⟩
  exact congrArg (Model.mk document.displayTitle (Text.trimmed (document.basePath.getD "")))
    (Document.endpoints_relisted relists.paths.symm relists.parameters.symm)

def Datum.shop : Datum := .record [
  ("info", .record [("title", .text "Shop"), ("version", .text "1")]),
  ("paths", .record [
    ("/toys", .record [("get", .record [
      ("summary", .text "All toys"),
      ("parameters", .list [.record [("name", .text "page"), ("in", .text "query")]])])]),
    ("/pets", .record [])])]

/-- The same with the fields of most records in another order. -/
def Datum.movedShop : Datum := .record [
  ("paths", .record [
    ("/pets", .record []),
    ("/toys", .record [("get", .record [
      ("parameters", .list [.record [("in", .text "query"), ("name", .text "page")]]),
      ("summary", .text "All toys")])])]),
  ("info", .record [("version", .text "1"), ("title", .text "Shop")])]

theorem Datum.shop_reordered : (Json.treeOf shop).Reordered (Json.treeOf movedShop) := by
  have operation : (Json.treeOf (.record [
      ("summary", .text "All toys"),
      ("parameters", .list [.record [("name", .text "page"), ("in", .text "query")]])])).Reordered
      (Json.treeOf (.record [
        ("parameters", .list [.record [("in", .text "query"), ("name", .text "page")]]),
        ("summary", .text "All toys")])) :=
    .object (.cons (.pair (.refl _)) (.cons (.pair (.array (.cons (.members (.swap _ _ _)) .nil))) .nil)) (.swap _ _ _)
  have item : (Json.treeOf (.record [("get", .record [
      ("summary", .text "All toys"),
      ("parameters", .list [.record [("name", .text "page"), ("in", .text "query")]])])])).Reordered _ :=
    .object (.cons (.pair operation) .nil) (.refl _)
  have paths : (Json.treeOf (.record [("/toys", .record [("get", .record [
      ("summary", .text "All toys"),
      ("parameters", .list [.record [("name", .text "page"), ("in", .text "query")]])])]),
      ("/pets", .record [])])).Reordered _ :=
    .object (.cons (.pair item) (.cons (.pair (.refl _)) .nil)) (.swap _ _ _)
  exact .object (.cons (.pair (.members (.swap _ _ _))) (.cons (.pair paths) .nil)) (.swap _ _ _)

theorem ofText_reordered_shop :
    (Json.Tree.ofText (Json.write .shop)).1.hasDistinctKeys ∧
    (Json.Tree.ofText (Json.write .shop)).1.Reordered (Json.Tree.ofText (Json.write .movedShop)).1 ∧
    (Json.Tree.ofText (Json.write .movedShop)).2 ∧
    ∃ document paths parameters, Document.ofText .json (Json.write .shop) = .ok document ∧
      paths.entries.Perm document.paths.entries ∧ parameters.entries.Perm document.parameters.entries ∧
      Document.ofText .json (Json.write .movedShop) = .ok (document.relisted paths parameters) ∧
      Model.ofDocument (document.relisted paths parameters) = Model.ofDocument document := by
  have distinct : (Json.Tree.ofText (Json.write .shop)).1.hasDistinctKeys := by
    rw [Json.ofText_write]
    decide +kernel
  have reordered : (Json.Tree.ofText (Json.write .shop)).1.Reordered (Json.Tree.ofText (Json.write .movedShop)).1 := by
    rw [Json.ofText_write, Json.ofText_write]
    exact Datum.shop_reordered
  have isWhole : (Json.Tree.ofText (Json.write .movedShop)).2 := by rw [Json.ofText_write]
  cases loaded : Document.ofText .json (Json.write .shop) with
  | error cause =>
    have isLoaded : (Document.ofText .json (Json.write .shop)).toOption.isSome := by decide +kernel
    rw [loaded] at isLoaded
    cases isLoaded
  | ok document =>
    obtain ⟨paths, parameters, rest⟩ := ofText_reordered loaded distinct reordered isWhole
    exact ⟨distinct, reordered, isWhole, document, paths, parameters, rfl, rest⟩

end SwaggerSdk
