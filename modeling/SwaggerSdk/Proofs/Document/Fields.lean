import Mathlib.Data.List.Nodup
import SwaggerSdk.Proofs.Document.Members

/-!
# What a field of a record comes from

A field of a record that has been read holds what the member of its name says, or the item in its place, and what the
record held before if there is none (`Shape.get_ofMembers`, `Shape.get_ofItems`). That is so in any monad in which what
a computation returns comes from what its steps return, be it one that fails or one that also counts.
-/

namespace SwaggerSdk

/-- What a computation may return, from some state if it has one. -/
class Returning (m : Type → Type) [Monad m] where
  Returns {α : Type} : m α → α → Prop
  eq_of_pure {α : Type} {x y : α} : Returns (pure x) y → x = y
  of_bind {α β : Type} {first : m α} {next : α → m β} {y : β} :
    Returns (first >>= next) y → ∃ x, Returns first x ∧ Returns (next x) y

export Returning (Returns)

instance (priority := low) {m : Type → Type} [Monad m] [Peels m] : Returning m where
  Returns computation x := computation = pure x
  eq_of_pure := Peels.pure_inj
  of_bind := Peels.bind_eq_pure

instance {ς : Type} : Returning (StateT ς Option) where
  Returns computation x := ∃ state state', computation.run state = some (x, state')
  eq_of_pure := by
    rintro _ _ _ ⟨state, state', returned⟩
    exact (Prod.mk.inj (Option.some.inj returned)).1
  of_bind := by
    rintro _ _ first next y ⟨state, state', returned⟩
    obtain ⟨⟨x, middle⟩, here, there⟩ := Option.bind_eq_some_iff.mp returned
    exact ⟨x, ⟨state, middle, here⟩, ⟨middle, state', there⟩⟩

theorem Returning.of_map {m : Type → Type} [Monad m] [LawfulMonad m] [Returning m] {α β : Type} {first : m α} {f : α → β}
    {y : β} (returned : Returns (f <$> first) y) : ∃ x, Returns first x ∧ f x = y := by
  rw [map_eq_pure_bind] at returned
  obtain ⟨x, here, there⟩ := of_bind returned
  exact ⟨x, here, eq_of_pure there⟩

variable {m : Type → Type} [Monad m] [LawfulMonad m] [Returning m] {κ σ ρ α β : Type}

/-! ### Fields and one part of a record -/

/-- A field either has that name and sets the part of the record to what `read` reads, or leaves the part alone. -/
inductive Field.Acts (name : String) (get : ρ → β) (read : σ → m β) : Field m σ ρ → Prop
  | own {hasDefault : Bool} {set : β → ρ → ρ} (sets : ∀ value record, get (set value record) = value) :
      Acts name get read ⟨name, hasDefault, fun place => set <$> read place⟩
  | other {α : Type} {name' : String} {hasDefault : Bool} {read' : σ → m α} {set : α → ρ → ρ} (different : name' ≠ name)
      (keeps : ∀ value record, get (set value record) = get record) :
      Acts name get read ⟨name', hasDefault, fun place => set <$> read' place⟩

namespace Field.Acts

variable {name : String} {get : ρ → β} {read : σ → m β} {field : Field m σ ρ} {place : σ} {update : ρ → ρ}

theorem sets (acts : field.Acts name get read) (named : field.name = name) (reads : Returns (field.read place) update)
    (record : ρ) : Returns (read place) (get (update record)) := by
  cases acts with
  | own sets =>
    obtain ⟨value, here, rfl⟩ := Returning.of_map reads
    rwa [sets]
  | other different => exact absurd named different

theorem keeps (acts : field.Acts name get read) (named : field.name ≠ name) (reads : Returns (field.read place) update)
    (record : ρ) : get (update record) = get record := by
  cases acts with
  | own => exact absurd rfl named
  | other _ keeps =>
    obtain ⟨value, -, rfl⟩ := Returning.of_map reads
    exact keeps value record

end Field.Acts

/-! ### Members and items -/

/-- What a part of a record is: what is read from a place if there is one, else what it was before. -/
def ReadFrom (read : σ → m β) (before : β) : Option σ → β → Prop
  | some place, value => Returns (read place) value
  | none, value => value = before

omit [LawfulMonad m] in
theorem ReadFrom.map_iff {τ : Type} {read : σ → m β} {before value : β} {place : τ → σ} {found : Option τ} :
    ReadFrom read before (found.map place) value ↔ ReadFrom (fun item => read (place item)) before found value := by
  cases found <;> rfl

namespace Shape

variable {name : String} {get : ρ → β} {read : σ → m β}

section Members

variable {shape : Shape m σ ρ} {fieldOf : κ → m (Option (Field m σ ρ))} {skip : σ → m Unit} {repeated : String → m Unit}
  {nameOf? : κ → Option String}

def placeOf? (nameOf? : κ → Option String) (name : String) (members : List (κ × σ)) : Option σ :=
  (members.find? fun member => nameOf? member.1 == some name).map (·.2)

omit [Monad m] [LawfulMonad m] [Returning m] in
theorem placeOf?_cons (nameOf? : κ → Option String) (name : String) (member : κ × σ) (members : List (κ × σ)) :
    placeOf? nameOf? name (member :: members) =
      if nameOf? member.1 = some name then some member.2 else placeOf? nameOf? name members := by
  unfold placeOf?
  by_cases here : nameOf? member.1 = some name <;> simp [here]

omit [Monad m] [LawfulMonad m] [Returning m] in
theorem placeOf?_map {κ' τ : Type} (nameOf? : κ' → Option String) (name : String) (key : κ → κ') (place : σ → τ)
    (members : List (κ × σ)) :
    placeOf? nameOf? name (members.map fun member => (key member.1, place member.2)) =
      (placeOf? (fun member => nameOf? (key member)) name members).map place := by
  induction members with
  | nil => rfl
  | cons member members ih =>
    rw [List.map_cons, placeOf?_cons, placeOf?_cons, ih]
    split <;> rfl

/-- No member sets a field that has been seen, and any other field is read from the member of its name. -/
theorem get_ofMembers_of_seen (isField : (shape.field? name).isSome)
    (acts : ∀ field ∈ shape.fields, field.Acts name get read)
    (known : ∀ ⦃key found⦄, Returns (fieldOf key) found → ∃ name, nameOf? key = some name ∧ shape.field? name = found)
    (refuses : ∀ name result, ¬Returns (repeated name) result) {seen : List String} {record result : ρ}
    {members : List (κ × σ)} (made : Returns (ofMembers fieldOf skip repeated seen record members) result) :
    ReadFrom read (get record) (placeOf? nameOf? name members) (get result) ∧
      (name ∈ seen → placeOf? nameOf? name members = none) := by
  induction members generalizing seen record with
  | nil =>
    rw [ofMembers] at made
    rw [Returning.eq_of_pure made]
    exact ⟨rfl, fun _ => rfl⟩
  | cons member members ih =>
    obtain ⟨key, place⟩ := member
    rw [ofMembers] at made
    obtain ⟨found, here, made⟩ := Returning.of_bind made
    obtain ⟨keyName, named, found?⟩ := known here
    rw [placeOf?_cons, named]
    cases found with
    | none =>
      have other : ¬some keyName = some name := by
        rintro ⟨⟩
        rw [found?] at isField
        cases isField
      obtain ⟨_, -, made⟩ := Returning.of_bind made
      rw [if_neg other]
      exact ih made
    | some field =>
      have fieldNamed : field.name = keyName := name_of_field? found?
      have acts := acts field (List.mem_of_find?_eq_some found?)
      simp only at made
      split at made
      · obtain ⟨_, accepted, -⟩ := Returning.of_bind made
        exact absurd accepted (refuses _ _)
      · next unseen =>
        obtain ⟨update, reads, made⟩ := Returning.of_bind made
        obtain ⟨others, fresh⟩ := ih made
        have unseen : keyName ∉ seen := by simpa [fieldNamed] using unseen
        by_cases same : keyName = name
        · subst same
          -- the members behind this one leave the field as it is now
          rw [fresh (fieldNamed ▸ List.mem_cons_self)] at others
          rw [if_pos rfl]
          exact ⟨others ▸ acts.sets fieldNamed reads record, fun earlier => absurd earlier unseen⟩
        · rw [if_neg fun both => same (Option.some.inj both)]
          rw [acts.keeps (fieldNamed ▸ same) reads] at others
          exact ⟨others, fun earlier => fresh (List.mem_cons_of_mem _ earlier)⟩

theorem get_ofMembers (isField : (shape.field? name).isSome) (acts : ∀ field ∈ shape.fields, field.Acts name get read)
    (known : ∀ ⦃key found⦄, Returns (fieldOf key) found → ∃ name, nameOf? key = some name ∧ shape.field? name = found)
    (refuses : ∀ name result, ¬Returns (repeated name) result) {record result : ρ} {members : List (κ × σ)}
    (made : Returns (ofMembers fieldOf skip repeated [] record members) result) :
    ReadFrom read (get record) (placeOf? nameOf? name members) (get result) :=
  (get_ofMembers_of_seen isField acts known refuses made).1

end Members

/-- A field of a record is read from the item in its place. -/
theorem get_ofItems {fields : List (Field m σ ρ)} (distinct : (fields.map (·.name)).Nodup)
    (acts : ∀ field ∈ fields, field.Acts name get read) {absent : Nat → Field m σ ρ → m Unit} {index : Nat}
    {record result : ρ} {items rest : List σ} (made : Returns (ofItems absent index fields record items) (result, rest)) :
    ReadFrom read (get record) (placeOf? some name ((fields.map (·.name)).zip items)) (get result) := by
  induction fields generalizing index record items with
  | nil =>
    rw [ofItems] at made
    rw [(Prod.mk.inj (Returning.eq_of_pure made)).1]
    rfl
  | cons field fields ih =>
    obtain ⟨first, others⟩ := List.forall_mem_cons.mp acts
    obtain ⟨fresh, distinct⟩ := List.nodup_cons.mp distinct
    cases items with
    | nil =>
      rw [ofItems] at made
      obtain ⟨_, -, made⟩ := Returning.of_bind made
      have later := ih distinct others made
      rwa [List.zip_nil_right] at later ⊢
    | cons place items =>
      rw [ofItems] at made
      obtain ⟨update, reads, made⟩ := Returning.of_bind made
      have later := ih distinct others made
      rw [List.map_cons, List.zip_cons_cons, placeOf?_cons]
      by_cases same : field.name = name
      · -- names are distinct, so no later item is for the field
        have none : placeOf? some name ((fields.map (·.name)).zip items) = none := by
          refine Option.map_eq_none_iff.mpr (List.find?_eq_none.mpr fun entry member named => ?_)
          have listed := (List.of_mem_zip member).1
          rw [Option.some.inj (eq_of_beq named), ← same] at listed
          exact fresh listed
        rw [none] at later
        rw [if_pos (congrArg some same)]
        exact later ▸ first.sets same reads record
      · rw [if_neg fun both => same (Option.some.inj both), ← first.keeps same reads record]
        exact later

end Shape

end SwaggerSdk
