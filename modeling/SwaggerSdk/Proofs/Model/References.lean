import SwaggerSdk.Proofs.Model.EntryLists
import SwaggerSdk.Proofs.Model.SourceOrder

/-!
# References are transparent

A reference to a shared parameter stands for the parameter itself, whatever its name holds, and a reference that
leads nowhere stands for nothing. `ofDocument_respelled` says that a model does not show which of the two a document
writes.
-/

namespace SwaggerSdk

/-! ### Names inside references -/

namespace Pointer

/-- Every pair of these characters becomes one; pairs are sought from the left and do not overlap. -/
def replacePair (first second replacement : Char) : List Char → List Char
  | [] => []
  | [c] => [c]
  | c :: d :: s =>
    if c = first ∧ d = second then replacement :: replacePair first second replacement s
    else c :: replacePair first second replacement (d :: s)

/-- The name that stands behind `#/parameters/`: first every `~1` becomes a slash, then every `~0` a tilde. -/
def decoded (token : List Char) : String :=
  String.ofList (replacePair '~' '0' '~' (replacePair '~' '1' '/' token))

section Replace

variable {first second replacement : Char} {s : List Char}

theorem replacePair_pair : replacePair first second replacement (first :: second :: s) =
    replacement :: replacePair first second replacement s := if_pos ⟨rfl, rfl⟩

theorem replacePair_cons_of_head {c : Char} (single : c ≠ first ∨ s.head? ≠ some second) :
    replacePair first second replacement (c :: s) = c :: replacePair first second replacement s := by
  cases s with
  | nil => rfl
  | cons d s =>
    refine if_neg fun pair => ?_
    rcases single with other | other
    · exact other pair.1
    · exact other (congrArg some pair.2)

theorem head?_replacePair {c : Char} (other : replacement ≠ c) (head : s.head? ≠ some c) :
    (replacePair first second replacement s).head? ≠ some c := by
  match s with
  | [] => exact head
  | [d] => exact head
  | d :: e :: s =>
    rw [replacePair]
    split
    · simpa using other
    · exact head

end Replace

/-- Names may be read in one pass: no pair overlaps another, and a slash completes none. -/
theorem unescape_eq_replacePair (token : List Char) :
    unescape token = replacePair '~' '0' '~' (replacePair '~' '1' '/' token) := by
  fun_induction unescape token with
  | case1 => rfl
  | case2 s ih =>
    have slashes : replacePair '~' '1' '/' ('~' :: '0' :: s) = '~' :: '0' :: replacePair '~' '1' '/' s := by
      rw [replacePair_cons_of_head (.inr (by simp)), replacePair_cons_of_head (.inl (by decide))]
    rw [slashes, replacePair_pair, ih]
  | case3 s ih =>
    -- the slash that is put in is no tilde, so the second pass leaves it
    rw [replacePair_pair, replacePair_cons_of_head (.inl (by decide)), ih]
  | case4 c s notTilde notSlash ih =>
    by_cases tilde : c = '~'
    · -- a lone tilde: the first pass puts no `0` behind it
      subst tilde
      have noZero : s.head? ≠ some '0' := by
        intro head
        obtain ⟨rest, rfl⟩ := List.head?_eq_some_iff.mp head
        exact notTilde rest rfl rfl
      have noOne : s.head? ≠ some '1' := by
        intro head
        obtain ⟨rest, rfl⟩ := List.head?_eq_some_iff.mp head
        exact notSlash rest rfl rfl
      rw [replacePair_cons_of_head (.inr noOne),
        replacePair_cons_of_head (.inr (head?_replacePair (by decide) noZero)), ih]
    · rw [replacePair_cons_of_head (.inl tilde), replacePair_cons_of_head (.inl tilde), ih]

theorem behind?_eq_some_iff {start s rest : List Char} : behind? start s = some rest ↔ s = start ++ rest := by
  induction start generalizing s with
  | nil => simp [behind?, eq_comm]
  | cons c start ih =>
    cases s with
    | nil => simp [behind?]
    | cons d s =>
      rw [behind?]
      split
      · next same => rw [ih, same, List.cons_append, List.cons_inj_right]
      · next other => simp [Ne.symm other]

theorem parameterName?_eq_some_iff {target name : String} :
    parameterName? target = some name ↔ ∃ token, target.toList = parameterPath ++ token ∧ decoded token = name := by
  simp only [parameterName?, Option.map_eq_some_iff, behind?_eq_some_iff, unescape_eq_replacePair, decoded]

end Pointer

/-! ### Entries that stand for the same -/

/-- A reference to no shared parameter: it does not start as one, or the name that it goes on with is not defined. -/
def Dangles (definitions : Table String Parameter) (target : String) : Prop :=
  ¬ Pointer.parameterPath <+: target.toList ∨
    ∃ token, target.toList = Pointer.parameterPath ++ token ∧ Pointer.decoded token ∉ definitions.keys

/-- A list of entries in which some parameters are replaced by references to definitions that they are equal to, and
some references that dangle are left out. -/
inductive Respelled (definitions : Table String Parameter) : List Entry → List Entry → Prop where
  | nil : Respelled definitions [] []
  | keep {entries entries' : List Entry} (entry : Entry) :
    Respelled definitions entries entries' → Respelled definitions (entry :: entries) (entry :: entries')
  | refer {entries entries' : List Entry} {name : String} {parameter : Parameter} :
    definitions.get? name = some parameter → Respelled definitions entries entries' →
      Respelled definitions (.inline parameter :: entries) (.reference (Pointer.toParameter name) :: entries')
  | drop {entries entries' : List Entry} {target : String} :
    Dangles definitions target → Respelled definitions entries entries' →
      Respelled definitions (.reference target :: entries) entries'

namespace Document

variable {document : Document}

theorem resolveEntry_toParameter (name : String) :
    document.resolveEntry (.reference (Pointer.toParameter name)) = document.parameters.get? name := by
  rw [resolveEntry, Pointer.parameterName?_toParameter, Option.bind_some]

theorem resolveEntry_of_dangles {target : String} (dangles : Dangles document.parameters target) :
    document.resolveEntry (.reference target) = none := by
  rw [resolveEntry, Option.bind_eq_none_iff]
  intro name named
  obtain ⟨token, spelled, rfl⟩ := Pointer.parameterName?_eq_some_iff.mp named
  rcases dangles with foreign | ⟨token', spelled', undefined⟩
  · exact absurd ⟨token, spelled.symm⟩ foreign
  · obtain rfl := List.append_cancel_left (spelled.symm.trans spelled')
    refine List.lookup_eq_none_iff.mpr fun entry member => ?_
    rw [bne_iff_ne]
    intro same
    exact undefined (List.mem_map.mpr ⟨entry, member, same.symm⟩)

theorem resolve_respelled {entries entries' : List Entry} (respelled : Respelled document.parameters entries entries') :
    document.resolve entries = document.resolve entries' := by
  unfold resolve
  induction respelled with
  | nil => rfl
  | keep entry _ ih => rw [List.filterMap_cons, List.filterMap_cons, ih]
  | refer defined _ ih =>
    rw [List.filterMap_cons, List.filterMap_cons, resolveEntry_toParameter, defined, ih]
    rfl
  | drop dangles _ ih => rw [List.filterMap_cons_none (resolveEntry_of_dangles dangles), ih]

end Document

/-- Whether a document spells shared parameters out or refers to them, and whether it has references that lead
nowhere, does not show in its model. -/
theorem ofDocument_respelled (document document' : Document)
    (respelled : document.Edited (Respelled document.parameters) document') :
    Model.ofDocument document' = Model.ofDocument document := by
  refine respelled.ofDocument_eq fun slot slot' both => ?_
  have same : document.resolve = document'.resolve := by
    funext entries
    rw [Document.resolve, respelled.resolveEntry, Document.resolve]
  rw [Document.parametersOf, Document.parametersOf, ← same, Document.resolve_respelled both.item.parameters,
    Document.resolve_respelled both.operation.parameters]

/-- A document with one operation, in which two shared parameters have names that are written with escapes. -/
def Document.sharing (shared own : List Entry) : Document :=
  { Document.blank with
    paths := ⟨[("/orders", PathItem.setOperation .get (some { Operation.blank with parameters := own })
      { PathItem.blank with parameters := shared })], List.nodup_singleton _⟩
    parameters := ⟨[("a/b~1", .ofQuery "limit"), ("~01", .ofQuery "start")], by decide⟩ }

theorem Document.sharing_edited {related : List Entry → List Entry → Prop} {shared shared' own own' : List Entry}
    (sharedRelated : related shared shared') (ownRelated : related own own') :
    (Document.sharing shared own).Edited related (.sharing shared' own') := by
  refine ⟨rfl, rfl, rfl, rfl, rfl, rfl, .cons ⟨rfl, sharedRelated, fun method => ?_⟩ .nil⟩
  cases method with
  | get => exact .some ⟨rfl, rfl, rfl, ownRelated⟩
  | _ => exact .none

theorem ofDocument_respelled_sharing :
    (Document.sharing [.inline (.ofQuery "limit"), .reference "#/definitions/~01"]
        [.reference "#/parameters/~1", .inline (.ofQuery "start")]).Edited
      (Respelled (Document.sharing [] []).parameters)
      (.sharing [.reference "#/parameters/a~1b~01"] [.reference "#/parameters/~001"]) ∧
    Model.ofDocument (.sharing [.reference "#/parameters/a~1b~01"] [.reference "#/parameters/~001"]) =
      Model.ofDocument (.sharing [.inline (.ofQuery "limit"), .reference "#/definitions/~01"]
        [.reference "#/parameters/~1", .inline (.ofQuery "start")]) := by
  have foreign : Dangles (Document.sharing [] []).parameters "#/definitions/~01" := .inl (by decide +kernel)
  have undefined : Dangles (Document.sharing [] []).parameters "#/parameters/~1" :=
    .inr ⟨['~', '1'], by decide +kernel, by decide +kernel⟩
  have shared : Respelled (Document.sharing [] []).parameters
      [.inline (.ofQuery "limit"), .reference "#/definitions/~01"] [.reference "#/parameters/a~1b~01"] := by
    have spelled : Pointer.toParameter "a/b~1" = "#/parameters/a~1b~01" := by decide +kernel
    exact spelled ▸ .refer rfl (.drop foreign .nil)
  have own : Respelled (Document.sharing [] []).parameters
      [.reference "#/parameters/~1", .inline (.ofQuery "start")] [.reference "#/parameters/~001"] := by
    have spelled : Pointer.toParameter "~01" = "#/parameters/~001" := by decide +kernel
    exact spelled ▸ .drop undefined (.refer rfl .nil)
  have edited := Document.sharing_edited shared own
  exact ⟨edited, ofDocument_respelled _ _ edited⟩

end SwaggerSdk
