import Mathlib
import SwaggerSdk.Proofs.Document.Loading
import SwaggerSdk.Proofs.Json.PaddedEntries
import SwaggerSdk.Proofs.Json.Strings

/-!
# Documents with more in them than is read

The schema of a document lists the fields that are read. Null entries of lists of parameters, null paths and null shared
parameters, null members for absent fields, and members of any other name and value may be inserted into a text, any
number of them and at any depth: it is loaded as the same document (`ofText_padded`).
-/

namespace SwaggerSdk

theorem PathItem.setOperation_none_blank (method : Method) : setOperation method none blank = blank := by
  simp [setOperation, blank]

namespace Json

/-! ### The schema of a document -/

namespace Schema

def parameter : Schema := .record parameterParts

def entries : Schema := .list .entry

def operation : Schema := .record [
  ⟨"operationId", true, .scalar⟩, ⟨"summary", true, .scalar⟩, ⟨"description", true, .scalar⟩,
  ⟨"parameters", false, entries⟩]

def methodNames : List String := ["get", "put", "post", "delete", "options", "head", "patch"]

def pathItem : Schema := .record (⟨"parameters", false, entries⟩ :: methodNames.map (⟨·, true, operation⟩))

def info : Schema := .record [
  ⟨"title", false, .scalar⟩, ⟨"description", true, .scalar⟩, ⟨"version", true, .scalar⟩]

def document : Schema := .record [
  ⟨"swagger", true, .scalar⟩, ⟨"openapi", true, .scalar⟩, ⟨"info", false, info⟩, ⟨"host", true, .scalar⟩,
  ⟨"basePath", true, .scalar⟩, ⟨"paths", false, .table pathItem⟩, ⟨"parameters", false, .table parameter⟩]

theorem methodNames_eq : methodNames = Method.all.map fun method => String.ofList method.lowerName := by decide

end Schema

/-! ### The records of a document -/

theorem entries_overlooks : Overlooks .entries dataFormat.entries := list_overlooks entry_overlooks

theorem parameter_overlooks : Overlooks .parameter dataFormat.parameter := by
  refine record_overlooks ?_ (Parameter.fields_commute _ _ _)
  exact .cons (.plain (scalar_overlooks _)) (.cons (.plain (scalar_overlooks _))
    (.cons (.nullable (scalar_overlooks _) rfl) (.cons (.plain (scalar_overlooks _))
      (.cons (.nullable (scalar_overlooks _) rfl) .nil))))

theorem operation_overlooks : Overlooks .operation dataFormat.operation := by
  refine record_overlooks ?_ ?_
  · exact .cons (.nullable (scalar_overlooks _) rfl) (.cons (.nullable (scalar_overlooks _) rfl)
      (.cons (.nullable (scalar_overlooks _) rfl) (.cons (.plain entries_overlooks) .nil)))
  · simp [Field.plain, Field.nullable, Field.commutes_of_set]

theorem pathItem_overlooks : Overlooks .pathItem dataFormat.pathItem := by
  refine record_overlooks (.cons (.plain entries_overlooks) ?_) (PathItem.fields_commute dataFormat)
  rw [Schema.methodNames_eq, List.map_map, List.forall₂_map_left_iff, List.forall₂_map_right_iff, List.forall₂_same]
  exact fun method _ => .nullable operation_overlooks (PathItem.setOperation_none_blank method)

theorem info_overlooks : Overlooks .info dataFormat.info := by
  refine record_overlooks ?_ ?_
  · exact .cons (.plain (scalar_overlooks _)) (.cons (.nullable (scalar_overlooks _) rfl)
      (.cons (.nullable (scalar_overlooks _) rfl) .nil))
  · simp [Field.plain, Field.nullable, Field.commutes_of_set]

theorem document_overlooks : Overlooks .document dataFormat.document := by
  refine record_overlooks ?_ ?_
  · exact .cons (.nullable (scalar_overlooks _) rfl) (.cons (.nullable (scalar_overlooks _) rfl)
      (.cons (.plain info_overlooks) (.cons (.nullable (scalar_overlooks _) rfl)
        (.cons (.nullable (scalar_overlooks _) rfl) (.cons (.plain (table_overlooks pathItem_overlooks))
          (.cons (.plain (table_overlooks parameter_overlooks)) .nil))))))
  · simp [Field.plain, Field.nullable, Field.commutes_of_set]

end Json

/-- A text is loaded as the same document whatever is inserted into it that is not read. -/
theorem ofText_padded {text text' : String} {document : Document}
    (loaded : Document.ofText .json text = .ok document)
    (padded : Relation.ReflTransGen (Json.Padded .document Json.depthLimit) (Json.Tree.ofText text).1
      (Json.Tree.ofText text').1)
    (isWhole : (Json.Tree.ofText text').2) : Document.ofText .json text' = .ok document := by
  obtain ⟨reads, understood⟩ := Document.ofText_json_eq_ok_iff.mp loaded
  have whole : ∀ {tree tree'}, Relation.ReflTransGen (Json.Padded .document Json.depthLimit) tree tree' →
      Json.dataFormat.document ⟨Json.depthLimit, tree⟩ = pure document →
        Json.dataFormat.document ⟨Json.depthLimit, tree'⟩ = pure document := by
    intro tree tree' padded reads
    induction padded with
    | refl => exact reads
    | tail _ step ih => exact Json.document_overlooks step ih
  have reads' := whole padded (Json.readDocument_eq_ok_iff.mp reads).1
  exact Document.ofText_json_eq_ok_iff.mpr ⟨Json.readDocument_eq_ok_iff.mpr ⟨reads', isWhole⟩, understood⟩

/-- A path with one operation and one parameter. -/
def Document.toysText : String :=
  "\x7b\"paths\":\x7b\"/toys\":\x7b\"get\":\x7b\"parameters\":[\x7b\"name\":\"size\"\x7d]\x7d\x7d\x7d\x7d"

/-- The same with something more at every depth. -/
def Document.paddedToysText : String :=
  "\x7b\"host\":null,\"paths\":\x7b\"/pets\":null,\"/toys\":\x7b\"get\":\x7b\"x-range\":[[],1e999]," ++
    "\"parameters\":[null,\x7b\"items\":\x7b\"type\":\"integer\"\x7d,\"name\":\"size\"\x7d]\x7d\x7d\x7d\x7d"

namespace Json

def Tree.toys (aside pathAside outside : List (Lexeme × Tree)) (parameters : List Tree) : Tree :=
  .object (outside ++ [(.ofText "paths", .object (pathAside ++ [(.ofText "/toys", .object [(.ofText "get",
    .object (aside ++ [(.ofText "parameters", .array parameters none)]) none)] none)]) none)]) none

def Tree.size (aside : List (Lexeme × Tree)) : Tree :=
  .object (aside ++ [(.ofText "name", .text (.ofText "size"))]) none

def Tree.itemsMember : Lexeme × Tree :=
  (.ofText "items", .object [(.ofText "type", .text (.ofText "integer"))] none)

def Tree.rangeMember : Lexeme × Tree :=
  (.ofText "x-range", .array [.array [] none, .number ⟨false, ['1'], [], some (false, ['9', '9', '9'])⟩] none)

theorem Padded.toys_operation {aside aside' : List (Lexeme × Tree)} {items items' : List Tree}
    (padded : Padded .operation 125 (.object (aside ++ [(.ofText "parameters", .array items none)]) none)
      (.object (aside' ++ [(.ofText "parameters", .array items' none)]) none)) :
    Padded .document depthLimit (.toys aside [] [] items) (.toys aside' [] [] items') :=
  @Padded.field _ _ [] _ _ _ _ _ _ _ (read_ofText "paths") rfl <| @Padded.value _ _ [] _ _ _ _ _ <|
    @Padded.field _ _ [] _ _ _ _ _ _ _ (read_ofText "get") rfl padded

theorem Padded.toys_parameters {items items' : List Tree}
    (padded : Padded .entries 124 (.array items none) (.array items' none)) :
    Padded .document depthLimit (.toys [] [] [] items) (.toys [] [] [] items') :=
  .toys_operation (@Padded.field _ _ [] _ _ _ _ _ _ _ (read_ofText "parameters") rfl padded)

end Json

theorem ofText_padded_toys :
    Relation.ReflTransGen (Json.Padded .document Json.depthLimit) (Json.Tree.ofText Document.toysText).1
      (Json.Tree.ofText Document.paddedToysText).1 ∧
    (Json.Tree.ofText Document.paddedToysText).2 ∧
    ∃ document, Document.ofText .json Document.toysText = .ok document ∧
      Document.ofText .json Document.paddedToysText = .ok document := by
  have plain : Json.Tree.ofText Document.toysText = (.toys [] [] [] [.size []], true) := by cbv
  have more : Json.Tree.ofText Document.paddedToysText =
      (.toys [Json.Tree.rangeMember] [(.ofText "/pets", .null)] [(.ofText "host", .null)] [.null, .size [Json.Tree.itemsMember]], true) := by
    cbv
  have isWhole : (Json.Tree.ofText Document.paddedToysText).2 := by rw [more]
  have null : Json.Padded .document Json.depthLimit (.toys [] [] [] [.size []]) (.toys [] [] [] [.null, .size []]) :=
    .toys_parameters (@Json.Padded.nullItem _ _ [] [.size []] none)
  have items : Json.Padded .document Json.depthLimit (.toys [] [] [] [.null, .size []])
      (.toys [] [] [] [.null, .size [Json.Tree.itemsMember]]) :=
    .toys_parameters (@Json.Padded.item _ _ [.null] [] none _ _
      (@Json.Padded.unknownInEntry _ [] _ none _ _ _ (Json.read_ofText "items") (by decide) (.inl rfl) rfl (by decide)))
  have range : Json.Padded .document Json.depthLimit (.toys [] [] [] [.null, .size [Json.Tree.itemsMember]])
      (.toys [Json.Tree.rangeMember] [] [] [.null, .size [Json.Tree.itemsMember]]) :=
    .toys_operation (@Json.Padded.unknownMember _ _ [] _ none _ _ _ (Json.read_ofText "x-range") rfl rfl)
  have pets : Json.Padded .document Json.depthLimit
      (.toys [Json.Tree.rangeMember] [] [] [.null, .size [Json.Tree.itemsMember]])
      (.toys [Json.Tree.rangeMember] [(.ofText "/pets", .null)] [] [.null, .size [Json.Tree.itemsMember]]) := by
    refine @Json.Padded.field _ _ [] [] none _ _ _ _ _ (Json.read_ofText "paths") rfl
      (@Json.Padded.nullMember _ _ [] _ none _ _ (Json.read_ofText "/pets") ?_)
    intro member listed named
    obtain rfl := List.mem_singleton.mp listed
    exact absurd ((Json.read_ofText "/toys").symm.trans named) (by decide)
  have host : Json.Padded .document Json.depthLimit
      (.toys [Json.Tree.rangeMember] [(.ofText "/pets", .null)] [] [.null, .size [Json.Tree.itemsMember]])
      (.toys [Json.Tree.rangeMember] [(.ofText "/pets", .null)] [(.ofText "host", .null)]
        [.null, .size [Json.Tree.itemsMember]]) := by
    refine @Json.Padded.absentField _ _ [] _ none _ _ _ (Json.read_ofText "host") rfl rfl ?_
    rw [List.nil_append, Json.Tree.keyNames, List.filterMap_cons, List.filterMap_nil, Json.read_ofText]
    decide
  have padded : Relation.ReflTransGen (Json.Padded .document Json.depthLimit) (Json.Tree.ofText Document.toysText).1
      (Json.Tree.ofText Document.paddedToysText).1 := by
    rw [plain, more]
    exact .tail (.tail (.tail (.tail (.single null) items) range) pets) host
  have isLoaded : (Document.ofText .json Document.toysText).toOption.isSome := by decide +kernel
  obtain ⟨document, loaded⟩ := Json.exists_ok_of_isSome isLoaded
  exact ⟨padded, isWhole, document, loaded, ofText_padded loaded padded isWhole⟩

end SwaggerSdk
