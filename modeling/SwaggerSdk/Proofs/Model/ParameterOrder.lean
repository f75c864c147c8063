import SwaggerSdk.Proofs.Model.EntryLists
import SwaggerSdk.Proofs.Model.SourceOrder

/-!
# The order of parameters in their lists

What a model shows of the order in which a list declares its parameters: nothing, but for parameters of one
endpoint, one location and one name, which stay in the order of the document. Where those agree, the order of
a list does not matter.
-/

namespace SwaggerSdk

/-! ### Parameters -/

namespace Parameter

variable {shared shared' own own' parameters parameters' : List Parameter}

theorem merge_perm (sharedPerm : shared.Perm shared') (ownPerm : own.Perm own') :
    (merge shared own).Perm (merge shared' own') := by
  have same : (fun parameter : Parameter => !own.any (·.replaces parameter)) =
      fun parameter => !own'.any (·.replaces parameter) :=
    funext fun parameter => congrArg (!·) ownPerm.any_eq
  unfold merge
  rw [same]
  exact (sharedPerm.filter _).append ownPerm

theorem located_perm (perm : parameters.Perm parameters') (location : KnownLocation) :
    (located location parameters).Perm (located location parameters') := by
  have found := (perm.filter (·.location == .known location)).map toParam
  exact ((List.mergeSort_perm _ _).trans found).trans (List.mergeSort_perm _ _).symm

theorem located_sorted (location : KnownLocation) (parameters : List Parameter) :
    (located location parameters).Pairwise fun a b => a.name ≤ b.name :=
  pairwise_mergeSort_key Param.name _

/-- The names come out in one order, whatever order the parameters were declared in. -/
theorem located_names (perm : parameters.Perm parameters') (location : KnownLocation) :
    (located location parameters).map Param.name = (located location parameters').map Param.name :=
  ((located_perm perm location).map Param.name).eq_of_pairwise (fun _ _ _ _ => String.le_antisymm)
    (List.pairwise_map.mpr (located_sorted location _)) (List.pairwise_map.mpr (located_sorted location _))

end Parameter

/-! ### Endpoints -/

namespace Endpoint

/-- The same parameters in the same order of names: only parameters of one name can have changed places. -/
structure SameUpToTies (params params' : List Param) : Prop where
  perm : params.Perm params'
  names : params.map Param.name = params'.map Param.name

/-- Two endpoints are the same, but for the order of parameters of one name. -/
structure Alike (endpoint endpoint' : Endpoint) : Prop where
  name : endpoint.name = endpoint'.name
  route : endpoint.route = endpoint'.route
  pathParams : SameUpToTies endpoint.pathParams endpoint'.pathParams
  queryParams : SameUpToTies endpoint.queryParams endpoint'.queryParams
  hasBody : endpoint.hasBody = endpoint'.hasBody
  summary : endpoint.summary = endpoint'.summary
  description : endpoint.description = endpoint'.description

/-- The parameters of one name agree. -/
def Agrees (params : List Param) : Prop := ∀ a ∈ params, ∀ b ∈ params, a.name = b.name → a = b

structure Unambiguous (endpoint : Endpoint) : Prop where
  pathParams : Agrees endpoint.pathParams
  queryParams : Agrees endpoint.queryParams

theorem SameUpToTies.eq {params params' : List Param} (same : SameUpToTies params params') (agrees : Agrees params) :
    params = params' := by
  have names : List.Forall₂ (fun a b => a.name = b.name) params params' :=
    List.forall₂_map_left_iff.mp (List.forall₂_map_right_iff.mp (List.forall₂_eq_eq_eq ▸ same.names))
  refine List.forall₂_eq_eq_eq ▸ List.forall₂_iff_zip.mpr ⟨names.length_eq, fun {a b} pair => ?_⟩
  obtain ⟨member, member'⟩ := List.of_mem_zip pair
  exact agrees a member b (same.perm.mem_iff.mpr member') (List.forall₂_zip names pair)

/-- Alike endpoints are the same if the parameters of one name agree. -/
theorem Alike.eq {endpoint endpoint' : Endpoint} (alike : endpoint.Alike endpoint')
    (unambiguous : endpoint.Unambiguous) : endpoint = endpoint' := by
  have path := alike.pathParams.eq unambiguous.pathParams
  have query := alike.queryParams.eq unambiguous.queryParams
  obtain ⟨name, route, -, -, hasBody, summary, description⟩ := alike
  cases endpoint
  cases endpoint'
  simp_all

structure Sorted (endpoint : Endpoint) : Prop where
  pathParams : endpoint.pathParams.Pairwise fun a b => a.name ≤ b.name
  queryParams : endpoint.queryParams.Pairwise fun a b => a.name ≤ b.name

end Endpoint

/-- Lists that agree on what they are sorted by are sorted in the same way. -/
theorem forall₂_mergeSort {α : Type} {related : α → α → Prop} {key : α → String} {list list' : List α}
    (both : List.Forall₂ related list list') (same : ∀ {a b}, related a b → key a = key b) :
    List.Forall₂ related (list.mergeSort fun a b => decide (key a ≤ key b))
      (list'.mergeSort fun a b => decide (key a ≤ key b)) := by
  -- the pairs are sorted as one list, of which the two sorted lists are the sides
  obtain ⟨pairs, all, rfl, rfl⟩ : ∃ pairs : List (α × α), (∀ pair ∈ pairs, related pair.1 pair.2) ∧
      pairs.map Prod.fst = list ∧ pairs.map Prod.snd = list' := by
    induction both with
    | nil => exact ⟨[], by simp, rfl, rfl⟩
    | @cons a b _ _ here _ ih =>
      obtain ⟨pairs, all, firsts, seconds⟩ := ih
      refine ⟨(a, b) :: pairs, List.forall_mem_cons.mpr ⟨here, all⟩, ?_, ?_⟩
      · rw [List.map_cons, firsts]
      · rw [List.map_cons, seconds]
  have firsts := List.map_mergeSort (f := Prod.fst) (l := pairs)
    (r := fun p q => decide (key p.1 ≤ key q.1)) (s := fun a b => decide (key a ≤ key b)) (fun _ _ _ _ => rfl)
  have seconds := List.map_mergeSort (f := Prod.snd) (l := pairs)
    (r := fun p q => decide (key p.1 ≤ key q.1)) (s := fun a b => decide (key a ≤ key b))
    (fun p memberP q memberQ => by rw [same (all p memberP), same (all q memberQ)])
  rw [← firsts, ← seconds]
  refine List.forall₂_map_left_iff.mpr (List.forall₂_map_right_iff.mpr (List.forall₂_same.mpr fun pair member => ?_))
  exact all pair (List.mem_mergeSort.mp member)

/-! ### Documents with reordered lists -/

structure Operation.Shuffles (operation operation' : Operation) : Prop where
  id : operation.id = operation'.id
  summary : operation.summary = operation'.summary
  description : operation.description = operation'.description
  parameters : operation.parameters.Perm operation'.parameters

structure PathItem.Shuffles (item item' : PathItem) : Prop where
  parameters : item.parameters.Perm item'.parameters
  operation : ∀ method, Option.Rel Operation.Shuffles (item.operation method) (item'.operation method)

/-- The same document, with the lists of parameters of its paths and operations in other orders. -/
structure Document.Shuffles (document document' : Document) : Prop where
  swagger : document.swagger = document'.swagger
  openapi : document.openapi = document'.openapi
  info : document.info = document'.info
  host : document.host = document'.host
  basePath : document.basePath = document'.basePath
  parameters : document.parameters = document'.parameters
  paths : List.Forall₂ (fun entry entry' => entry.1 = entry'.1 ∧ entry.2.Shuffles entry'.2)
    document.paths.entries document'.paths.entries

namespace Document.Shuffles

variable {document document' : Document}

theorem edited (shuffles : document.Shuffles document') : document.Edited List.Perm document' := by
  obtain ⟨swagger, openapi, info, host, basePath, parameters, paths⟩ := shuffles
  refine ⟨swagger, openapi, info, host, basePath, parameters, paths.imp ?_⟩
  rintro ⟨path, item⟩ ⟨path', item'⟩ ⟨same, shared, operation⟩
  refine ⟨same, shared, fun method => ?_⟩
  have both := operation method
  revert both
  generalize item.operation method = operation?, item'.operation method = operation?'
  rintro (⟨id, summary, description, own⟩ | _)
  · exact .some ⟨id, summary, description, own⟩
  · exact .none

theorem resolve_perm (shuffles : document.Shuffles document') {entries entries' : List Entry}
    (perm : entries.Perm entries') : (document.resolve entries).Perm (document'.resolve entries') := by
  unfold resolve
  rw [shuffles.edited.resolveEntry]
  exact perm.filterMap _

theorem parametersOf_perm (shuffles : document.Shuffles document') {slot slot' : Slot}
    (both : slot.Edited List.Perm slot') : (document.parametersOf slot).Perm (document'.parametersOf slot') :=
  Parameter.merge_perm (shuffles.resolve_perm both.item.parameters)
    (shuffles.resolve_perm both.operation.parameters)

theorem located_sameUpToTies (shuffles : document.Shuffles document') {slot slot' : Slot}
    (both : slot.Edited List.Perm slot') (location : KnownLocation) :
    Endpoint.SameUpToTies (Parameter.located location (document.parametersOf slot))
      (Parameter.located location (document'.parametersOf slot')) where
  perm := Parameter.located_perm (shuffles.parametersOf_perm both) location
  names := Parameter.located_names (shuffles.parametersOf_perm both) location

theorem endpoint_alike (shuffles : document.Shuffles document') {slot slot' : Slot}
    (both : slot.Edited List.Perm slot') (name : String) : (document.endpoint name slot).Alike (document'.endpoint name slot') where
  name := rfl
  route := both.route
  pathParams := shuffles.located_sameUpToTies both .path
  queryParams := shuffles.located_sameUpToTies both .query
  hasBody := (shuffles.parametersOf_perm both).any_eq
  summary := by simp only [endpoint, both.operation.summary]
  description := by simp only [endpoint, both.operation.description]

theorem endpoints_alike (shuffles : document.Shuffles document') :
    List.Forall₂ Endpoint.Alike (Model.ofDocument document).endpoints (Model.ofDocument document').endpoints := by
  refine forall₂_mergeSort ?_ Endpoint.Alike.name
  refine List.forall₂_map_left_iff.mpr (List.forall₂_map_right_iff.mpr (shuffles.edited.slots.imp fun slot slot' both => ?_))
  rw [← shuffles.edited.claims, ← both.route]
  exact shuffles.endpoint_alike both _

end Document.Shuffles

theorem sorted_params {document : Document} {endpoint : Endpoint}
    (member : endpoint ∈ (Model.ofDocument document).endpoints) : endpoint.Sorted := by
  obtain ⟨slot, -, rfl⟩ := document.mem_endpoints.mp member
  exact ⟨Parameter.located_sorted .path _, Parameter.located_sorted .query _⟩

/-- The order of the entries in the lists of parameters shows in a model only where an endpoint has several
parameters of one name at one location that do not agree on whether they are required. -/
theorem ofDocument_shuffled (document document' : Document) (shuffles : document.Shuffles document') :
    List.Forall₂ Endpoint.Alike (Model.ofDocument document).endpoints (Model.ofDocument document').endpoints ∧
    ((∀ endpoint ∈ (Model.ofDocument document).endpoints, endpoint.Unambiguous) →
      Model.ofDocument document' = Model.ofDocument document) := by
  have alike := shuffles.endpoints_alike
  refine ⟨alike, fun unambiguous => ?_⟩
  have endpoints : (Model.ofDocument document').endpoints = (Model.ofDocument document).endpoints := by
    refine (List.forall₂_eq_eq_eq ▸ List.forall₂_iff_zip.mpr ⟨alike.length_eq, fun {a b} pair => ?_⟩ :).symm
    obtain ⟨member, -⟩ := List.of_mem_zip pair
    exact (List.forall₂_zip alike pair).eq (unambiguous a member)
  have title : document'.displayTitle = document.displayTitle := by
    rw [Document.displayTitle, ← shuffles.info, Document.displayTitle]
  have basePath : document'.basePath = document.basePath := shuffles.basePath.symm
  calc Model.ofDocument document'
      = ⟨document'.displayTitle, Text.trimmed (document'.basePath.getD ""),
          (Model.ofDocument document').endpoints⟩ := rfl
    _ = ⟨document.displayTitle, Text.trimmed (document.basePath.getD ""),
          (Model.ofDocument document).endpoints⟩ := by rw [title, basePath, endpoints]
    _ = Model.ofDocument document := rfl

def PathItem.taking (parameters : List Parameter) : PathItem :=
  PathItem.blank.setOperation .get (some { Operation.blank with parameters := parameters.map .inline })

def Document.taking (parameters : List Parameter) : Document :=
  { Document.blank with paths := ⟨[("/orders", .taking parameters)], List.nodup_singleton _⟩ }

theorem Document.taking_shuffles {parameters parameters' : List Parameter} (perm : parameters.Perm parameters') :
    (Document.taking parameters).Shuffles (.taking parameters') := by
  refine ⟨rfl, rfl, rfl, rfl, rfl, rfl, .cons ⟨rfl, .refl _, fun method => ?_⟩ .nil⟩
  cases method with
  | get => exact .some ⟨rfl, rfl, rfl, perm.map _⟩
  | _ => exact .none

theorem Document.parametersOf_taking (parameters : List Parameter) :
    ∃ slot, (Document.taking parameters).slots = [slot] ∧
      (Document.taking parameters).parametersOf slot = parameters := by
  refine ⟨_, rfl, ?_⟩
  have own : (Document.taking parameters).resolve (parameters.map .inline) = parameters := by
    simp [resolve, resolveEntry, List.filterMap_map, Function.comp_def]
  exact own

theorem endpoints_taking (parameters : List Parameter) :
    ∃ endpoint, (Model.ofDocument (.taking parameters)).endpoints = [endpoint] ∧
      endpoint.pathParams = Parameter.located .path parameters ∧
      endpoint.queryParams = Parameter.located .query parameters := by
  obtain ⟨slot, slots, taken⟩ := Document.parametersOf_taking parameters
  have single : ∃ name, (Model.ofDocument (.taking parameters)).endpoints =
      [(Document.taking parameters).endpoint name slot] := by
    rw [Model.ofDocument, slots]
    exact ⟨_, List.mergeSort_singleton _⟩
  obtain ⟨name, single⟩ := single
  refine ⟨_, single, ?_, ?_⟩
  · rw [Document.endpoint, taken]
  · rw [Document.endpoint, taken]

theorem Endpoint.agrees_located {parameters : List Parameter} (location : KnownLocation)
    (agree : ∀ a ∈ parameters, ∀ b ∈ parameters, a.name = b.name → a.required = b.required) :
    Agrees (Parameter.located location parameters) := by
  have found : ∀ param ∈ Parameter.located location parameters, ∃ parameter ∈ parameters,
      parameter.toParam = param := by
    intro param member
    obtain ⟨parameter, there, rfl⟩ := List.mem_map.mp (List.mem_mergeSort.mp member)
    exact ⟨parameter, List.mem_of_mem_filter there, rfl⟩
  intro a memberA b memberB same
  obtain ⟨p, memberP, rfl⟩ := found a memberA
  obtain ⟨q, memberQ, rfl⟩ := found b memberB
  exact congrArg₂ Param.mk same (agree p memberP q memberQ same)

def Parameter.ofQueryRequired (name : String) : Parameter := { Parameter.ofQuery name with required := true }

theorem ofDocument_shuffled_pages :
    (Document.taking [.ofQuery "page", .ofQuery "size", .ofQuery "page"]).Shuffles
      (.taking [.ofQuery "size", .ofQuery "page", .ofQuery "page"]) ∧
    Model.ofDocument (.taking [.ofQuery "size", .ofQuery "page", .ofQuery "page"]) =
      Model.ofDocument (.taking [.ofQuery "page", .ofQuery "size", .ofQuery "page"]) := by
  have shuffles : (Document.taking [.ofQuery "page", .ofQuery "size", .ofQuery "page"]).Shuffles
      (.taking [.ofQuery "size", .ofQuery "page", .ofQuery "page"]) :=
    Document.taking_shuffles (.swap _ _ _)
  refine ⟨shuffles, (ofDocument_shuffled _ _ shuffles).2 fun endpoint member => ?_⟩
  obtain ⟨only, endpoints, path, query⟩ :=
    endpoints_taking [Parameter.ofQuery "page", .ofQuery "size", .ofQuery "page"]
  rw [endpoints, List.mem_singleton] at member
  subst member
  have agree : ∀ location, Endpoint.Agrees (Parameter.located location
      [.ofQuery "page", .ofQuery "size", .ofQuery "page"]) :=
    fun location => Endpoint.agrees_located location (by decide)
  exact ⟨path ▸ agree .path, query ▸ agree .query⟩

/-- Two parameters of one name that differ stay in the order of the document, so here the order shows. -/
theorem ofDocument_shuffled_differs :
    (Document.taking [.ofQueryRequired "page", .ofQuery "page"]).Shuffles
      (.taking [.ofQuery "page", .ofQueryRequired "page"]) ∧
    Model.ofDocument (.taking [.ofQuery "page", .ofQueryRequired "page"]) ≠
      Model.ofDocument (.taking [.ofQueryRequired "page", .ofQuery "page"]) := by
  refine ⟨Document.taking_shuffles (.swap _ _ _), fun same => ?_⟩
  obtain ⟨endpoint, endpoints, -, query⟩ := endpoints_taking [.ofQuery "page", .ofQueryRequired "page"]
  obtain ⟨endpoint', endpoints', -, query'⟩ := endpoints_taking [.ofQueryRequired "page", .ofQuery "page"]
  rw [same, endpoints', List.singleton_inj] at endpoints
  subst endpoints
  rw [query, Parameter.located, Parameter.located, List.mergeSort_of_pairwise, List.mergeSort_of_pairwise] at query'
  · exact absurd query' (by decide)
  · decide
  · decide

end SwaggerSdk
