import Mathlib.Logic.Relator
import SwaggerSdk.Proofs.Document.Members

/-!
# Records that do not depend on the order of their members

A shape is steady if its fields can be set in any order and each of them carries what is alike to what is related.
Members that are alike, in whatever order, are then read as related records, as are lists of alike items.
-/

namespace SwaggerSdk

open Relator

/-! ### Steps that are alike -/

namespace Step

variable {ρ : Type} {related : ρ → ρ → Prop}

/-- Two steps pass, or set the same field and keep records related. -/
inductive Alike (related : ρ → ρ → Prop) : Step ρ → Step ρ → Prop
  | pass : Alike related pass pass
  | set {name : String} {update update' : ρ → ρ} (keeps : (related ⇒ related) update update') :
      Alike related (.set name update) (.set name update')

theorem names_of_alike {steps steps' : List (Step ρ)} (alike : List.Forall₂ (Alike related) steps steps') :
    names steps = names steps' := by
  induction alike with
  | nil => rfl
  | cons first _ ih =>
    cases first with
    | pass => exact ih
    | set => exact congrArg (List.cons _) ih

theorem run_of_alike {steps steps' : List (Step ρ)} (alike : List.Forall₂ (Alike related) steps steps')
    {record record' : ρ} (start : related record record') : related (run record steps) (run record' steps') := by
  induction alike generalizing record record' with
  | nil => exact start
  | cons first _ ih =>
    cases first with
    | pass => exact ih start
    | set keeps => exact ih (keeps start)

end Step

namespace Field

variable {m : Type → Type} [Monad m] [LawfulMonad m] [Peels m] {σ ρ α β : Type} {field field' : Field m σ ρ}

theorem carries_of_set {alike : σ → σ → Prop} {values : α → α → Prop} {related : ρ → ρ → Prop} {read : σ → m α}
    {set : α → ρ → ρ} (carries : Carries alike values read) (keeps : (values ⇒ related ⇒ related) set set) :
    Carries alike (related ⇒ related) fun place => set <$> read place := by
  intro place place' here update reads
  obtain ⟨x, value, rfl⟩ := Peels.map_eq_pure reads
  obtain ⟨x', value', both⟩ := carries here value
  have reads' : set <$> read place' = pure (set x') := by rw [value', map_pure]
  exact ⟨set x', reads', keeps both⟩

theorem carries_eq_of_set {alike : σ → σ → Prop} {read : σ → m α} {set : α → ρ → ρ} (carries : Carries alike Eq read) :
    Carries alike (Eq ⇒ Eq) fun place => set <$> read place :=
  carries_of_set carries fun _ _ same _ _ same' => by rw [same, same']

theorem commutes_of_set {name name' : String} {hasDefault hasDefault' : Bool} {read : σ → m α} {set : α → ρ → ρ}
    {read' : σ → m β} {set' : β → ρ → ρ} (commute : ∀ x y record, set x (set' y record) = set' y (set x record)) :
    Commutes ⟨name, hasDefault, fun place => set <$> read place⟩
      ⟨name', hasDefault', fun place => set' <$> read' place⟩ := by
  intro place place' update update' reads reads' record
  obtain ⟨x, -, rfl⟩ := Peels.map_eq_pure reads
  obtain ⟨y, -, rfl⟩ := Peels.map_eq_pure reads'
  exact commute x y record

end Field

namespace Shape

variable {m : Type → Type} [Monad m] {κ σ ρ : Type}

/-- The order in which the fields are read does not matter, and alike places are read as related records. -/
structure Steady (alike : σ → σ → Prop) (related : ρ → ρ → Prop) (shape : Shape m σ ρ) : Prop where
  blank : related shape.blank shape.blank
  fields : ∀ field ∈ shape.fields, Carries alike (related ⇒ related) field.read
  commute : shape.fields.Pairwise Field.Commutes

section Members

variable [LawfulMonad m] [Peels m] {alike : σ → σ → Prop} {related : ρ → ρ → Prop} {shape : Shape m σ ρ}
  {fieldOf : κ → m (Option (Field m σ ρ))} {skip : σ → m Unit} {repeated : String → m Unit}

theorem Steady.step_carries (steady : shape.Steady alike related)
    (known : ∀ ⦃key field⦄, fieldOf key = pure (some field) → field ∈ shape.fields)
    (skips : ∀ ⦃place place'⦄, alike place place' → skip place = pure () → skip place' = pure ()) :
    Carries (Keyed alike) (Step.Alike related) (step fieldOf skip) := by
  rintro ⟨key, place⟩ ⟨_, place'⟩ ⟨rfl, alikePlaces⟩ made makes
  simp only at alikePlaces
  rcases step_eq_pure_iff.mp makes with ⟨unknown, skipped, rfl⟩ | ⟨field, update, found, reads, rfl⟩
  · exact ⟨.pass, step_eq_pure_iff.mpr (Or.inl ⟨unknown, skips alikePlaces skipped, rfl⟩), .pass⟩
  · obtain ⟨update', reads', keeps⟩ := steady.fields field (known found) alikePlaces reads
    exact ⟨.set field.name update', step_eq_pure_iff.mpr (Or.inr ⟨field, update', found, reads', rfl⟩), .set keeps⟩

/-- Members that are alike, in whatever order, are read as related records. -/
theorem Steady.ofMembers_carries (steady : shape.Steady alike related)
    (known : ∀ ⦃key field⦄, fieldOf key = pure (some field) → field ∈ shape.fields)
    (skips : ∀ ⦃place place'⦄, alike place place' → skip place = pure () → skip place' = pure ())
    (refuses : ∀ name, repeated name ≠ pure ()) {members middle members' : List (κ × σ)}
    (both : List.Forall₂ (Keyed alike) members middle) (perm : middle.Perm members') {record : ρ}
    (reads : ofMembers fieldOf skip repeated [] shape.blank members = pure record) :
    ∃ record', ofMembers fieldOf skip repeated [] shape.blank members' = pure record' ∧ related record record' := by
  obtain ⟨steps, makes, -, distinct, rfl⟩ := (ofMembers_eq_pure_iff refuses).mp reads
  obtain ⟨steps', makes', alikeSteps⟩ := mapM_alike both (steady.step_carries known skips) makes
  obtain ⟨steps'', makes'', permSteps⟩ := mapM_perm perm makes'
  have distinct' : (Step.names steps').Nodup := by rwa [← Step.names_of_alike alikeSteps]
  have distinct'' : (Step.names steps'').Nodup := (permSteps.filterMap Step.name?).nodup distinct'
  have same := Step.run_perm permSteps distinct' (commute_of_steps steady.commute known makes') shape.blank
  refine ⟨Step.run shape.blank steps'', ?_, same ▸ Step.run_of_alike alikeSteps steady.blank⟩
  exact (ofMembers_eq_pure_iff refuses).mpr ⟨steps'', makes'', fun _ _ => List.not_mem_nil, distinct'', rfl⟩

theorem ofItems_carries {absent : Nat → Field m σ ρ → m Unit} {fields : List (Field m σ ρ)}
    (carries : ∀ field ∈ fields, Carries alike (related ⇒ related) field.read)
    {items items' rest : List σ} (both : List.Forall₂ alike items items') {index : Nat} {record record' result : ρ}
    (start : related record record') (reads : ofItems absent index fields record items = pure (result, rest)) :
    ∃ result' rest', ofItems absent index fields record' items' = pure (result', rest') ∧
      related result result' ∧ rest.isEmpty = rest'.isEmpty := by
  induction fields generalizing items items' index record record' with
  | nil =>
    rw [ofItems] at reads
    obtain ⟨rfl, rfl⟩ := Prod.mk.inj (Peels.pure_inj reads)
    exact ⟨record', items', by rw [ofItems], start, by cases both <;> rfl⟩
  | cons field fields ih =>
    obtain ⟨first, others⟩ := List.forall_mem_cons.mp carries
    cases both with
    | nil =>
      rw [ofItems] at reads
      obtain ⟨_, allowed, reads⟩ := Peels.bind_eq_pure reads
      obtain ⟨result', rest', reads', both⟩ := ih others .nil start reads
      exact ⟨result', rest', by rw [ofItems, allowed, pure_bind, reads'], both⟩
    | cons here there =>
      rw [ofItems] at reads
      obtain ⟨update, read, reads⟩ := Peels.bind_eq_pure reads
      obtain ⟨update', read', keeps⟩ := first here read
      obtain ⟨result', rest', reads', both⟩ := ih others there (keeps start) reads
      exact ⟨result', rest', by rw [ofItems, read', pure_bind, reads'], both⟩

end Members

end Shape

theorem Parameter.fields_commute {m : Type → Type} [Monad m] [LawfulMonad m] [Peels m] {σ : Type} (text : σ → m String)
    (flag : σ → m Bool) (optionalText : σ → m (Option String)) :
    (shape text flag optionalText).fields.Pairwise Field.Commutes := by
  simp [shape, Field.plain, Field.nullable, Field.commutes_of_set]

theorem Parameter.steady {m : Type → Type} [Monad m] [LawfulMonad m] [Peels m] {σ : Type} {alike : σ → σ → Prop}
    {text : σ → m String} {flag : σ → m Bool} {optionalText : σ → m (Option String)} (texts : Carries alike Eq text)
    (flags : Carries alike Eq flag) (optionalTexts : Carries alike Eq optionalText) :
    (shape text flag optionalText).Steady alike Eq where
  blank := rfl
  fields := by
    simp only [shape, List.forall_mem_cons]
    exact ⟨Field.carries_eq_of_set texts, Field.carries_eq_of_set texts, Field.carries_eq_of_set optionalTexts,
      Field.carries_eq_of_set flags, Field.carries_eq_of_set optionalTexts, by simp⟩
  commute := fields_commute text flag optionalText

theorem PathItem.setOperation_comm {method method' : Method} (different : method ≠ method') (x y : Option Operation)
    (item : PathItem) :
    (item.setOperation method' y).setOperation method x = (item.setOperation method x).setOperation method' y := by
  unfold setOperation
  congr 1
  funext other
  by_cases here : other = method
  · subst here
    simp [different]
  · simp [here]

theorem PathItem.fields_commute {m : Type → Type} [Monad m] [LawfulMonad m] [Peels m] {σ : Type} (format : DataFormat m σ) :
    (Field.plain "parameters" format.entries (fun parameters item => { item with parameters }) ::
      Method.all.map format.operationField).Pairwise Field.Commutes := by
  rw [List.pairwise_cons, List.forall_mem_map, List.pairwise_map]
  have distinct : Method.all.Pairwise (· ≠ ·) := by decide
  exact ⟨fun method _ => Field.commutes_of_set fun _ _ _ => rfl,
    distinct.imp fun different => Field.commutes_of_set (PathItem.setOperation_comm different)⟩

end SwaggerSdk
