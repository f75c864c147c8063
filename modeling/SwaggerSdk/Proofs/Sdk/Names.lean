import SwaggerSdk.Generate
import SwaggerSdk.Proofs.Model.Names

/-!
# The names in generated code

Two names are chosen by the configuration, and the checks let them through if they are lawful, not declared by the
generated code, and distinct. The names of the endpoints are derived from the document; they begin with a small letter.
-/

namespace SwaggerSdk

namespace Config

/-- What the checks require of the two names that a configuration chooses. -/
structure NamesPass (config : Config) : Prop where
  baseUrlVar : isUsableName config.baseUrlVar
  tokenFn : isUsableName config.tokenFn
  distinct : config.baseUrlVar ≠ config.tokenFn

theorem isUsableName_of_checkName {option value : String} (accepted : checkName option value = .ok ()) :
    isUsableName value := by
  unfold checkName at accepted
  split at accepted
  · assumption
  · cases accepted

theorem namesPass_of_check {config : Config} {settled : Language × String} (accepted : config.check = .ok settled) :
    config.NamesPass := by
  unfold check at accepted
  cases chosen : config.language with
  | error => rw [chosen] at accepted; cases accepted
  | ok language =>
    cases base : checkName "--baseUrlVar" config.baseUrlVar with
    | error => rw [chosen, base] at accepted; cases accepted
    | ok =>
      cases token : checkName "--tokenFn" config.tokenFn with
      | error => rw [chosen, base, token] at accepted; cases accepted
      | ok =>
        refine ⟨isUsableName_of_checkName base, isUsableName_of_checkName token, fun same => ?_⟩
        rw [chosen, base, token] at accepted
        simp only [same, bind, Except.bind, if_true] at accepted
        cases accepted

def chosenNames (config : Config) : List String := [config.baseUrlVar, config.tokenFn]

theorem NamesPass.isUsableName {config : Config} (pass : config.NamesPass) {name : String}
    (chosen : name ∈ config.chosenNames) : Config.isUsableName name := by
  simp only [chosenNames, List.mem_cons, List.not_mem_nil, or_false] at chosen
  rcases chosen with rfl | rfl
  · exact pass.baseUrlVar
  · exact pass.tokenFn

theorem notMem_runtimeNames {name : String} (usable : Config.isUsableName name) : name ∉ runtimeNames := by
  simp only [Config.isUsableName, Bool.and_eq_true, Bool.not_eq_true', List.contains_eq_mem, decide_eq_false_iff_not]
    at usable
  exact usable.2

theorem isIdentifier_of_isUsableName {name : String} (usable : Config.isUsableName name) : Naming.isIdentifier name := by
  simp only [Config.isUsableName, Bool.and_eq_true] at usable
  exact usable.1.1

end Config

/-! ### Derived names -/

def Naming.startsLower (name : String) : Bool := name.toList.head?.any Char.isLower

theorem Naming.startsLower_append {candidate : String} (camel : IsCamel candidate.toList) (rest : String) :
    startsLower (candidate ++ rest) := by
  have head := camel.head
  rw [startsLower, String.toList_append]
  cases letters : candidate.toList with
  | nil => rw [letters] at head; cases head
  | cons c s => rw [letters] at head; exact head

theorem Naming.startsLower_publishedName (keys : List String) (key : String) (route : Route) (id? : Option String) :
    startsLower (publishedName keys (candidate route id?) key) := by
  have camel := isCamel_candidate route id?
  unfold publishedName
  split
  · exact camel.head
  · rw [String.append_assoc, String.append_assoc]
    exact startsLower_append camel _

theorem Document.startsLower_endpoint (document : Document) {endpoint : Endpoint}
    (listed : endpoint ∈ (Model.ofDocument document).endpoints) : Naming.startsLower endpoint.name := by
  obtain ⟨slot, -, rfl⟩ := document.mem_endpoints.mp listed
  exact Naming.startsLower_publishedName _ _ _ _

def Model.names (model : Model) : List String := model.endpoints.map (·.name)

theorem Document.startsLower_of_mem_names (document : Document) {name : String}
    (listed : name ∈ (Model.ofDocument document).names) : Naming.startsLower name := by
  obtain ⟨endpoint, member, rfl⟩ := List.mem_map.mp listed
  exact document.startsLower_endpoint member

theorem Document.notMem_names (document : Document) {name : String} (other : Naming.startsLower name = false) :
    name ∉ (Model.ofDocument document).names := fun listed => by
  have lower := document.startsLower_of_mem_names listed
  rw [other] at lower
  cases lower

theorem Document.nodup_names (document : Document) : (Model.ofDocument document).names.Nodup :=
  nodup_of_ascending document.ascending_endpoints

/-- A name without underscores is that of an endpoint if an operation wants it. -/
theorem Document.mem_names_iff (document : Document) {name : String} (plain : '_' ∉ name.toList) :
    name ∈ (Model.ofDocument document).names ↔ ∃ slot ∈ document.slots, slot.candidate = name := by
  have names : (Model.ofDocument document).names.Perm (document.slots.map document.finalName) := by
    have perm := document.endpoints_perm.map (·.name)
    rwa [List.map_map] at perm
  rw [names.mem_iff, List.mem_map]
  constructor
  · rintro ⟨slot, listed, rfl⟩
    refine ⟨slot, listed, ?_⟩
    unfold finalName Naming.publishedName at plain ⊢
    split
    · rfl
    · rename_i other
      rw [if_neg other] at plain
      exact absurd (Naming.underscore_mem_renamed slot.candidate slot.route.key _) plain
  · rintro ⟨slot, listed, rfl⟩
    -- the smallest of the keys that want the name has it
    obtain ⟨key, wanted, least⟩ := (document.keysWanting slot.candidate).toFinset.exists_min_image id
      ⟨slot.route.key, List.mem_toFinset.mpr (document.mem_keysWanting.mpr ⟨slot, listed, rfl, rfl⟩)⟩
    obtain ⟨owner, member, wants, rfl⟩ := document.mem_keysWanting.mp (List.mem_toFinset.mp wanted)
    refine ⟨owner, member, ?_⟩
    rw [finalName, wants]
    exact Naming.publishedName_of_least fun other listed => least other (List.mem_toFinset.mpr listed)

theorem Document.isEmpty_model (document : Document) : (Model.ofDocument document).isEmpty = document.slots.isEmpty := by
  have same := document.endpoints_perm.length_eq
  rw [List.length_map] at same
  rw [Model.isEmpty, Bool.eq_iff_iff, List.isEmpty_iff_length_eq_zero, List.isEmpty_iff_length_eq_zero, same]

theorem Model.hasEndpoint_eq (model : Model) (name : String) : model.hasEndpoint name = decide (name ∈ model.names) := by
  rw [hasEndpoint, names, Bool.eq_iff_iff]
  simp

end SwaggerSdk
