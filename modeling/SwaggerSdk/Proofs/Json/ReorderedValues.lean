import SwaggerSdk.Proofs.Document.Steady
import SwaggerSdk.Proofs.Json.Places
import SwaggerSdk.Proofs.Json.Reordering

/-!
# Typed values of reordered trees

An entry of a list of parameters is judged by its whole value. The values of reordered trees agree but for the order
of members and for what is inside their items and members (`Value.Alike`), and no entry depends on these, so they
stand for the same entry.
-/

namespace SwaggerSdk

/-- A typed value without what it contains. -/
def Value.outline : Value → Value
  | list _ => list []
  | map _ => map []
  | value => value

/-- Typed values of one outline. -/
def Value.Resembles (value value' : Value) : Prop := value.outline = value'.outline

/-- Typed values that agree, but for the order of members and what is below them. -/
inductive Value.Alike : Value → Value → Prop
  | same (value : Value) : Alike value value
  | list {items items' : List Value} : List.Forall₂ Resembles items items' → Alike (.list items) (.list items')
  | map {members middle members' : List (Value × Value)} :
      List.Forall₂ (Keyed Resembles) members middle → middle.Perm members' → Alike (.map members) (.map members')

namespace Json

theorem typedMember_carries {depth : Nat} {alike : Tree → Tree → Prop} {related : Value → Value → Prop}
    (carries : Carries alike related (readTyped depth)) :
    Carries (Keyed alike) (Keyed related) (typedMember depth) := by
  rintro ⟨key, tree⟩ ⟨_, tree'⟩ ⟨rfl, here⟩ typed reads
  obtain ⟨name, named, reads⟩ := Peels.bind_eq_pure reads
  obtain ⟨value, read, reads⟩ := Peels.bind_eq_pure reads
  obtain ⟨value', read', both⟩ := carries here read
  rw [← Peels.pure_inj reads]
  refine ⟨(.text name, value'), ?_, rfl, both⟩
  rw [typedMember, named, pure_bind, read', pure_bind]

/-- Where the one tree can be read, the other can, with the same outline. -/
def SameOutline (tree tree' : Tree) : Prop :=
  ∀ ⦃depth value⦄, readTyped depth tree = pure value →
    ∃ value', readTyped depth tree' = pure value' ∧ value.Resembles value'

theorem SameOutline.refl (tree : Tree) : SameOutline tree tree := fun _ value reads => ⟨value, reads, rfl⟩

theorem readTyped_sameOutline (depth : Nat) :
    Carries SameOutline Value.Resembles (readTyped depth) :=
  fun _ _ same _ reads => same reads

theorem sameOutline_of_reordered {tree tree' : Tree} (reordered : tree.Reordered tree') : SameOutline tree tree' := by
  induction reordered with
  | refl tree => exact .refl tree
  | trans _ _ ih ih' =>
    intro depth value reads
    obtain ⟨value', reads', outline⟩ := ih reads
    obtain ⟨value'', reads'', outline'⟩ := ih' reads'
    exact ⟨value'', reads'', outline.trans outline'⟩
  | members perm =>
    intro depth value reads
    obtain ⟨inner, values, deep, each, complete, rfl⟩ := readTyped_object_eq_pure_iff.mp reads
    obtain ⟨values', each', -⟩ := mapM_perm perm each
    exact ⟨.map values', readTyped_object_eq_pure_iff.mpr ⟨inner, values', deep, each', complete, rfl⟩, rfl⟩
  | item _ ih =>
    intro depth value reads
    obtain ⟨inner, values, deep, each, complete, rfl⟩ := readTyped_array_eq_pure_iff.mp reads
    obtain ⟨values', each', -⟩ := mapM_alike (Tree.forall₂_middle .refl ih _ _) (readTyped_sameOutline inner) each
    exact ⟨.list values', readTyped_array_eq_pure_iff.mpr ⟨inner, values', deep, each', complete, rfl⟩, rfl⟩
  | @value before after fault key tree tree' _ ih =>
    intro depth value reads
    have both : List.Forall₂ (Keyed SameOutline) (before ++ (key, tree) :: after) (before ++ (key, tree') :: after) :=
      Tree.forall₂_middle (fun member => ⟨rfl, .refl member.2⟩) ⟨rfl, ih⟩ before after
    obtain ⟨inner, values, deep, each, complete, rfl⟩ := readTyped_object_eq_pure_iff.mp reads
    obtain ⟨values', each', -⟩ := mapM_alike both (typedMember_carries (readTyped_sameOutline inner)) each
    exact ⟨.map values', readTyped_object_eq_pure_iff.mpr ⟨inner, values', deep, each', complete, rfl⟩, rfl⟩

theorem readTyped_carries (depth : Nat) : Carries Tree.Reordered Value.Alike (readTyped depth) := by
  intro tree tree' reordered value reads
  have outlines : ∀ inner, Carries Tree.Reordered Value.Resembles (readTyped inner) :=
    fun _ _ _ reordered _ reads => sameOutline_of_reordered reordered reads
  cases reordered.layered with
  | same => exact ⟨value, reads, .same value⟩
  | array items =>
    obtain ⟨inner, values, deep, each, complete, rfl⟩ := readTyped_array_eq_pure_iff.mp reads
    obtain ⟨values', each', alike⟩ := mapM_alike items (outlines inner) each
    exact ⟨.list values', readTyped_array_eq_pure_iff.mpr ⟨inner, values', deep, each', complete, rfl⟩, .list alike⟩
  | object members perm =>
    obtain ⟨inner, values, deep, each, complete, rfl⟩ := readTyped_object_eq_pure_iff.mp reads
    obtain ⟨middle, each', alike⟩ := mapM_alike members (typedMember_carries (outlines inner)) each
    obtain ⟨values', each'', permValues⟩ := mapM_perm perm each'
    exact ⟨.map values', readTyped_object_eq_pure_iff.mpr ⟨inner, values', deep, each'', complete, rfl⟩,
      .map alike permValues⟩

end Json

/-! ### Records of typed values -/

namespace Value

theorem carries_of_outline {α : Type} {read : Value → Option α} (reads : ∀ value, read value.outline = read value) :
    Carries Resembles Eq read := by
  intro value value' same x found
  exact ⟨x, by rw [← reads value', ← same, reads value, found], rfl⟩

theorem text?_outline (value : Value) : text? value.outline = text? value := by
  cases value <;> rfl

theorem flag?_outline (value : Value) : flag? value.outline = flag? value := by
  cases value <;> rfl

theorem optionalText?_outline (value : Value) : optional? text? value.outline = optional? text? value := by
  cases value <;> rfl

theorem record?_carries {ρ : Type} {related : ρ → ρ → Prop} {shape : Shape Option Value ρ}
    (refl : ∀ record, related record record) (steady : shape.Steady Resembles related) :
    Carries Alike related (record? shape) := by
  intro value value' alike record reads
  cases alike with
  | same => exact ⟨record, reads, refl record⟩
  | list both =>
    obtain ⟨⟨result, rest⟩, items, finished⟩ := Peels.bind_eq_pure reads
    obtain ⟨result', rest', items', relatedResults, sameRest⟩ :=
      Shape.ofItems_carries steady.fields both steady.blank items
    simp only [sameRest] at finished
    split at finished
    · next none =>
      obtain rfl := Option.some.inj finished
      exact ⟨result', (congrArg (Option.bind · _) items').trans (if_pos none), relatedResults⟩
    · cases finished
  | map both perm =>
    refine steady.ofMembers_carries ?_ (fun _ _ _ _ => rfl) (fun _ impossible => ?_) both perm reads
    · intro key field known
      split at known
      · exact List.mem_of_find?_eq_some (Option.some.inj known)
      · exact List.mem_of_getElem? (Option.some.inj known)
      · cases known
    · cases impossible

/-! ### Entries -/

theorem parameter?_carries : Carries Alike Eq parameter? :=
  record?_carries (fun _ => rfl) (Parameter.steady (carries_of_outline text?_outline) (carries_of_outline flag?_outline)
    (carries_of_outline optionalText?_outline))

theorem referenceShape_steady : referenceShape.Steady Resembles Eq where
  blank := rfl
  fields := by
    simp only [referenceShape, List.forall_mem_singleton]
    exact Field.carries_eq_of_set (carries_of_outline text?_outline)
  commute := List.pairwise_singleton _ _

theorem reference?_carries : Carries Alike Eq reference? := by
  intro value value' alike target found
  cases alike with
  | same => exact ⟨target, found, rfl⟩
  | list => cases found
  | map both perm =>
    have read := Option.join_eq_some_iff.mp found
    obtain ⟨_, read', rfl⟩ := record?_carries (fun _ => rfl) referenceShape_steady (.map both perm) read
    exact ⟨target, Option.join_eq_some_iff.mpr read', rfl⟩

theorem eq_of_carries {α : Type} {read : Value → Option α} (carries : Carries Alike Eq read) {value value' : Value}
    (alike : value.Alike value') (alike' : value'.Alike value) : read value = read value' := by
  cases here : read value with
  | some x =>
    obtain ⟨_, there, rfl⟩ := carries alike here
    exact there.symm
  | none =>
    cases there : read value' with
    | none => rfl
    | some x =>
      obtain ⟨_, here', -⟩ := carries alike' there
      rw [here] at here'
      cases here'

end Value

theorem Entry.ofValue?_alike {value value' : Value} (alike : value.Alike value') (alike' : value'.Alike value) :
    ofValue? value = ofValue? value' := by
  rw [ofValue?, ofValue?, Value.eq_of_carries Value.reference?_carries alike alike',
    Value.eq_of_carries Value.parameter?_carries alike alike']

end SwaggerSdk
