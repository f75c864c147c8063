import Mathlib.Data.List.Pairwise
import SwaggerSdk.Document.Shape
import SwaggerSdk.Proofs.Peels

/-!
# The members of a record as steps

Each member of a record that is read does one thing to it: it sets a field, or it is passed over. A record is read
from its members just if each of them has such a step and no field is set twice, and is then what the steps make
one after the other (`Shape.ofMembers_eq_pure_iff`). Steps that set different fields can be taken in any order.
-/

namespace SwaggerSdk

/-- What a member does to a record: it sets the field of that name, or it is passed over. -/
inductive Step (ρ : Type) where
  | pass
  | set (name : String) (update : ρ → ρ)

namespace Step

variable {ρ : Type}

def name? : Step ρ → Option String
  | pass => none
  | set name _ => some name

def apply (record : ρ) : Step ρ → ρ
  | pass => record
  | set _ update => update record

def names (steps : List (Step ρ)) : List String := steps.filterMap name?

def run (record : ρ) (steps : List (Step ρ)) : ρ := steps.foldl apply record

theorem fresh_cons {made : Step ρ} {steps : List (Step ρ)} {seen : List String} :
    (∀ name ∈ names (made :: steps), name ∉ seen) ∧ (names (made :: steps)).Nodup ↔
      (∀ name ∈ made.name?, name ∉ seen) ∧
        (∀ name ∈ names steps, name ∉ made.name?.toList ++ seen) ∧ (names steps).Nodup := by
  cases made with
  | pass =>
    have cons : names (.pass :: steps) = names steps := rfl
    simp [cons, name?]
  | set name update =>
    have cons : names (.set name update :: steps) = name :: names steps := rfl
    rw [cons, List.nodup_cons, List.forall_mem_cons]
    simp only [name?, Option.mem_def, Option.some.injEq, forall_eq', Option.toList_some, List.singleton_append,
      List.mem_cons, not_or]
    constructor
    · rintro ⟨⟨unseen, others⟩, fresh, distinct⟩
      exact ⟨unseen, fun other member => ⟨fun same => fresh (same ▸ member), others other member⟩, distinct⟩
    · rintro ⟨unseen, others, distinct⟩
      exact ⟨⟨unseen, fun other member => (others other member).2⟩, fun member => (others name member).1 rfl, distinct⟩

theorem update_eq_of_mem {steps : List (Step ρ)} (distinct : (names steps).Nodup) {name : String}
    {update update' : ρ → ρ} (member : set name update ∈ steps) (member' : set name update' ∈ steps) :
    update = update' := by
  have symm : Std.Symm fun made made' : Step ρ =>
      ∀ name, made.name? = some name → ∀ name', made'.name? = some name' → name ≠ name' :=
    ⟨fun _ _ apart name named name' named' => (apart name' named' name named).symm⟩
  by_contra different
  have apart := (List.pairwise_filterMap.mp distinct).forall member member' fun same => different (Step.set.inj same).2
  exact apart name rfl name rfl rfl

/-- Steps of different fields can be taken in any order. -/
theorem run_perm {steps steps' : List (Step ρ)} (perm : steps.Perm steps') (distinct : (names steps).Nodup)
    (commute : ∀ {name name' : String} {update update' : ρ → ρ}, set name update ∈ steps → set name' update' ∈ steps →
      name ≠ name' → ∀ record, update (update' record) = update' (update record)) (record : ρ) :
    run record steps = run record steps' := by
  refine perm.foldl_eq' (fun step member step' member' record => ?_) record
  cases step with
  | pass => rfl
  | set name update =>
    cases step' with
    | pass => rfl
    | set name' update' =>
      by_cases same : name = name'
      · subst same
        rw [update_eq_of_mem distinct member member']
      · exact commute member' member (Ne.symm same) record

end Step

def Field.Commutes {m : Type → Type} [Monad m] {σ ρ : Type} (field field' : Field m σ ρ) : Prop :=
  ∀ ⦃place place' : σ⦄ ⦃update update' : ρ → ρ⦄, field.read place = pure update → field'.read place' = pure update' →
    ∀ record, update (update' record) = update' (update record)

instance {m : Type → Type} [Monad m] {σ ρ : Type} : Std.Symm (Field.Commutes (m := m) (σ := σ) (ρ := ρ)) where
  symm _ _ commutes _ _ _ _ reads reads' record := (commutes reads' reads record).symm

/-! ### The steps of members -/

namespace Shape

variable {m : Type → Type} [Monad m] {κ σ ρ : Type} (fieldOf : κ → m (Option (Field m σ ρ))) (skip : σ → m Unit)
  (repeated : String → m Unit)

omit [Monad m] in
theorem name_of_field? {shape : Shape m σ ρ} {name : String} {field : Field m σ ρ}
    (known : shape.field? name = some field) : field.name = name := by
  rw [field?] at known
  simpa using List.find?_some known

def step (member : κ × σ) : m (Step ρ) := do
  match ← fieldOf member.1 with
  | none =>
    skip member.2
    return .pass
  | some field => return .set field.name (← field.read member.2)

variable {fieldOf skip repeated} [LawfulMonad m] [Peels m]

theorem step_eq_pure_iff {member : κ × σ} {made : Step ρ} :
    step fieldOf skip member = pure made ↔
      fieldOf member.1 = pure none ∧ skip member.2 = pure () ∧ made = .pass ∨
      ∃ field update, fieldOf member.1 = pure (some field) ∧ field.read member.2 = pure update ∧
        made = .set field.name update := by
  constructor
  · intro h
    obtain ⟨found, known, h⟩ := Peels.bind_eq_pure h
    cases found with
    | none =>
      obtain ⟨_, skipped, h⟩ := Peels.bind_eq_pure h
      exact Or.inl ⟨known, skipped, (Peels.pure_inj h).symm⟩
    | some field =>
      obtain ⟨update, reads, h⟩ := Peels.bind_eq_pure h
      exact Or.inr ⟨field, update, known, reads, (Peels.pure_inj h).symm⟩
  · rintro (⟨known, skipped, rfl⟩ | ⟨field, update, known, reads, rfl⟩)
    · simp [step, known, skipped]
    · simp [step, known, reads]

theorem ofMembers_cons_eq_pure_iff (refuses : ∀ name, repeated name ≠ pure ()) {member : κ × σ} {members : List (κ × σ)}
    {seen : List String} {record result : ρ} :
    ofMembers fieldOf skip repeated seen record (member :: members) = pure result ↔
      ∃ made, step fieldOf skip member = pure made ∧ (∀ name ∈ made.name?, name ∉ seen) ∧
        ofMembers fieldOf skip repeated (made.name?.toList ++ seen) (made.apply record) members = pure result := by
  obtain ⟨key, place⟩ := member
  rw [ofMembers]
  simp only [step_eq_pure_iff]
  constructor
  · intro h
    obtain ⟨found, known, h⟩ := Peels.bind_eq_pure h
    cases found with
    | none =>
      simp only at h
      obtain ⟨_, skipped, h⟩ := Peels.bind_eq_pure h
      exact ⟨.pass, Or.inl ⟨known, skipped, rfl⟩, by simp [Step.name?], h⟩
    | some field =>
      simp only at h
      split at h
      · obtain ⟨_, accepted, -⟩ := Peels.bind_eq_pure h
        exact absurd accepted (refuses field.name)
      · next unseen =>
        obtain ⟨update, reads, h⟩ := Peels.bind_eq_pure h
        refine ⟨.set field.name update, Or.inr ⟨field, update, known, reads, rfl⟩, ?_, h⟩
        simpa [Step.name?] using unseen
  · rintro ⟨made, ⟨known, skipped, rfl⟩ | ⟨field, update, known, reads, rfl⟩, fresh, h⟩
    · simp only [known, skipped, pure_bind]
      exact h
    · have unseen : ¬seen.contains field.name = true := by simpa [Step.name?] using fresh
      simp only [known, pure_bind, if_neg unseen, reads]
      exact h

/-- A record is made by the steps of its members, if no field comes twice. -/
theorem ofMembers_eq_pure_iff (refuses : ∀ name, repeated name ≠ pure ()) {members : List (κ × σ)} {seen : List String}
    {record result : ρ} :
    ofMembers fieldOf skip repeated seen record members = pure result ↔
      ∃ steps, members.mapM (step fieldOf skip) = pure steps ∧ (∀ name ∈ Step.names steps, name ∉ seen) ∧
        (Step.names steps).Nodup ∧ Step.run record steps = result := by
  simp only [mapM_eq_pure_iff]
  -- the induction is over the members; what has been seen and what the record is by then grow with each
  induction members generalizing seen record with
  | nil =>
    rw [ofMembers]
    constructor
    · intro h
      exact ⟨[], .nil, by simp [Step.names], List.nodup_nil, Peels.pure_inj h⟩
    · rintro ⟨steps, none, -, -, rfl⟩
      rw [List.forall₂_nil_left_iff.mp none]
      rfl
  | cons member members ih =>
    simp only [ofMembers_cons_eq_pure_iff refuses, ih, List.forall₂_cons_left_iff]
    constructor
    · rintro ⟨made, first, unseen, steps, others, fresh, distinct, makes⟩
      obtain ⟨fresh, distinct⟩ := Step.fresh_cons.mpr ⟨unseen, fresh, distinct⟩
      exact ⟨made :: steps, ⟨made, steps, first, others, rfl⟩, fresh, distinct, makes⟩
    · rintro ⟨_, ⟨made, steps, first, others, rfl⟩, fresh, distinct, makes⟩
      obtain ⟨unseen, fresh, distinct⟩ := Step.fresh_cons.mp ⟨fresh, distinct⟩
      exact ⟨made, first, unseen, steps, others, fresh, distinct, makes⟩

omit [Peels m] in
/-- A member that is passed over might as well not be there. -/
theorem ofMembers_insert_pass {key : κ} {place : σ} (unknown : fieldOf key = pure none) (skipped : skip place = pure ())
    (before after : List (κ × σ)) (seen : List String) (record : ρ) :
    ofMembers fieldOf skip repeated seen record (before ++ (key, place) :: after) =
      ofMembers fieldOf skip repeated seen record (before ++ after) := by
  induction before generalizing seen record with
  | nil => rw [List.nil_append, ofMembers, unknown, pure_bind, skipped, pure_bind, List.nil_append]
  | cons member before ih =>
    obtain ⟨other, place'⟩ := member
    rw [List.cons_append, List.cons_append, ofMembers, ofMembers]
    refine bind_congr fun found => ?_
    cases found <;> simp only [ih]

theorem commute_of_steps {fields : List (Field m σ ρ)} (commute : fields.Pairwise Field.Commutes)
    (known : ∀ ⦃key field⦄, fieldOf key = pure (some field) → field ∈ fields) {members : List (κ × σ)}
    {steps : List (Step ρ)} (makes : members.mapM (step fieldOf skip) = pure steps) {name name' : String}
    {update update' : ρ → ρ} (member : .set name update ∈ steps) (member' : .set name' update' ∈ steps)
    (different : name ≠ name') (record : ρ) : update (update' record) = update' (update record) := by
  -- a step that sets a field has been read from a member as that field
  have origin : ∀ {name update}, Step.set name update ∈ steps →
      ∃ field ∈ fields, field.name = name ∧ ∃ place, field.read place = pure update := by
    intro name update member
    obtain ⟨⟨key, place⟩, -, made⟩ := exists_of_mem_mapM makes member
    rcases step_eq_pure_iff.mp made with ⟨-, -, pass⟩ | ⟨field, update, found, reads, same⟩
    · cases pass
    · cases same
      exact ⟨field, known found, rfl, place, reads⟩
  obtain ⟨field, isField, rfl, place, reads⟩ := origin member
  obtain ⟨field', isField', rfl, place', reads'⟩ := origin member'
  have commutes : field.Commutes field' :=
    commute.forall isField isField' fun same => different (congrArg Field.name same)
  exact commutes reads reads' record

/-- A member may be added that sets an absent field to what it is at first. -/
theorem ofMembers_insert_absent {fields : List (Field m σ ρ)} (commute : fields.Pairwise Field.Commutes)
    (known : ∀ ⦃key field⦄, fieldOf key = pure (some field) → field ∈ fields) (refuses : ∀ name, repeated name ≠ pure ())
    {key : κ} {place : σ} {field : Field m σ ρ} {update : ρ → ρ} {before after : List (κ × σ)} {record result : ρ}
    (found : fieldOf key = pure (some field)) (reads : field.read place = pure update) (idle : update record = record)
    (absent : ∀ member ∈ before ++ after, ∀ other, fieldOf member.1 = pure (some other) → other.name ≠ field.name)
    (made : ofMembers fieldOf skip repeated [] record (before ++ after) = pure result) :
    ofMembers fieldOf skip repeated [] record (before ++ (key, place) :: after) = pure result := by
  obtain ⟨steps, makes, -, distinct, rfl⟩ := (ofMembers_eq_pure_iff refuses).mp made
  have here : step fieldOf skip (key, place) = pure (.set field.name update) :=
    step_eq_pure_iff.mpr (Or.inr ⟨field, update, found, reads, rfl⟩)
  obtain ⟨first, others, makes', rfl⟩ := mapM_insert makes here
  have fresh : field.name ∉ Step.names (first ++ others) := by
    intro listed
    obtain ⟨made, member, named⟩ := List.mem_filterMap.mp listed
    cases made with
    | pass => cases named
    | set name update' =>
      cases named
      obtain ⟨origin, present, made⟩ := exists_of_mem_mapM makes member
      rcases step_eq_pure_iff.mp made with ⟨-, -, pass⟩ | ⟨other, _, found', -, same⟩
      · cases pass
      · exact absent origin present other found' (Step.set.inj same).1.symm
  have perm : (first ++ .set field.name update :: others).Perm (.set field.name update :: (first ++ others)) :=
    List.perm_middle
  have distinct' : (Step.names (first ++ .set field.name update :: others)).Nodup :=
    (perm.symm.filterMap Step.name?).nodup (List.nodup_cons.mpr ⟨fresh, distinct⟩)
  refine (ofMembers_eq_pure_iff refuses).mpr ⟨_, makes', fun _ _ => List.not_mem_nil, distinct', ?_⟩
  -- the new step can be taken first, where it does nothing
  calc Step.run record (first ++ .set field.name update :: others)
      = Step.run record (.set field.name update :: (first ++ others)) :=
        Step.run_perm perm distinct' (commute_of_steps commute known makes') record
    _ = Step.run (update record) (first ++ others) := rfl
    _ = Step.run record (first ++ others) := by rw [idle]

/-- A member may stand for another that sets the same field alike. -/
theorem ofMembers_exchange (refuses : ∀ name, repeated name ≠ pure ()) {key : κ} {place place' : σ}
    (same : ∀ ⦃made⦄, step fieldOf skip (key, place) = pure made → step fieldOf skip (key, place') = pure made)
    {before after : List (κ × σ)} {record result : ρ}
    (made : ofMembers fieldOf skip repeated [] record (before ++ (key, place) :: after) = pure result) :
    ofMembers fieldOf skip repeated [] record (before ++ (key, place') :: after) = pure result := by
  obtain ⟨steps, makes, fresh, distinct, runs⟩ := (ofMembers_eq_pure_iff refuses).mp made
  exact (ofMembers_eq_pure_iff refuses).mpr ⟨steps, mapM_exchange makes same, fresh, distinct, runs⟩

theorem ofItems_exchange {absent : Nat → Field m σ ρ → m Unit} {fields : List (Field m σ ρ)} {before after : List σ}
    {field : Field m σ ρ} {place place' : σ} (here : fields[before.length]? = some field)
    (same : ∀ ⦃update⦄, field.read place = pure update → field.read place' = pure update) {index : Nat} {record : ρ}
    {result : ρ × List σ} (made : ofItems absent index fields record (before ++ place :: after) = pure result) :
    ofItems absent index fields record (before ++ place' :: after) = pure result := by
  induction before generalizing fields index record with
  | nil =>
    cases fields with
    | nil => cases here
    | cons first fields =>
      obtain rfl := Option.some.inj here
      rw [List.nil_append, ofItems] at made
      obtain ⟨update, reads, made⟩ := Peels.bind_eq_pure made
      rw [List.nil_append, ofItems, same reads, pure_bind, made]
  | cons item before ih =>
    cases fields with
    | nil => cases here
    | cons first fields =>
      rw [List.cons_append, ofItems] at made
      obtain ⟨update, reads, made⟩ := Peels.bind_eq_pure made
      rw [List.cons_append, ofItems, reads, pure_bind, ih here made]

end Shape

end SwaggerSdk
