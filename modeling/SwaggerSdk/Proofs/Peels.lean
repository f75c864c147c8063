import Mathlib.Data.List.Perm.Basic

/-!
# Readings that succeed

Where a reading succeeds, each of its parts does, be it in `Option` or in `Except`. Of a list that is read item by
item, the values correspond to the items, so a permuted list gives permuted values and alike items give related
values.
-/

namespace SwaggerSdk

/-- Where a computation succeeds, each of its steps does. -/
class Peels (m : Type → Type) [Monad m] : Prop where
  pure_inj {α : Type} {x y : α} : (pure x : m α) = pure y → x = y
  bind_eq_pure {α β : Type} {first : m α} {next : α → m β} {y : β} :
    first >>= next = pure y → ∃ x, first = pure x ∧ next x = pure y

instance : Peels Option where
  pure_inj := Option.some.inj
  bind_eq_pure := Option.bind_eq_some_iff.mp

instance {ε : Type} : Peels (Except ε) where
  pure_inj := Except.ok.inj
  bind_eq_pure {_ _ first _ _} h := by
    cases first with
    | error cause => cases h
    | ok x => exact ⟨x, rfl, h⟩

theorem Peels.map_eq_pure {m : Type → Type} [Monad m] [LawfulMonad m] [Peels m] {α β : Type} {first : m α} {f : α → β}
    {y : β} (h : f <$> first = pure y) : ∃ x, first = pure x ∧ f x = y := by
  rw [map_eq_pure_bind] at h
  obtain ⟨x, first, made⟩ := bind_eq_pure h
  exact ⟨x, first, pure_inj made⟩

/-- Alike places are read as values that are related. -/
def Carries {m : Type → Type} [Monad m] {σ α : Type} (alike : σ → σ → Prop) (related : α → α → Prop)
    (read : σ → m α) : Prop :=
  ∀ ⦃place place' : σ⦄, alike place place' → ∀ ⦃x⦄, read place = pure x → ∃ x', read place' = pure x' ∧ related x x'

/-- Pairs with one key, whose values are related. -/
structure Keyed {κ α : Type} (related : α → α → Prop) (pair pair' : κ × α) : Prop where
  key : pair.1 = pair'.1
  value : related pair.2 pair'.2

theorem Keyed.pair {κ α : Type} {related : α → α → Prop} {key : κ} {x x' : α} (both : related x x') :
    Keyed related (key, x) (key, x') := ⟨rfl, both⟩

section Lists

variable {m : Type → Type} [Monad m] [LawfulMonad m] [Peels m] {α β : Type} {read : α → m β}

theorem mapM_eq_pure_iff {list : List α} {values : List β} :
    list.mapM read = pure values ↔ List.Forall₂ (fun item value => read item = pure value) list values := by
  induction list generalizing values with
  | nil =>
    rw [List.mapM_nil, List.forall₂_nil_left_iff]
    exact ⟨fun h => (Peels.pure_inj h).symm, fun h => by rw [h]⟩
  | cons item list ih =>
    rw [List.mapM_cons, List.forall₂_cons_left_iff]
    constructor
    · intro h
      obtain ⟨value, first, h⟩ := Peels.bind_eq_pure h
      obtain ⟨others, rest, h⟩ := Peels.bind_eq_pure h
      exact ⟨value, others, first, ih.mp rest, (Peels.pure_inj h).symm⟩
    · rintro ⟨value, others, first, rest, rfl⟩
      rw [first, pure_bind, ih.mpr rest, pure_bind]

theorem mapM_map_eq_pure {γ : Type} {list : List γ} {item : γ → α} {value : γ → β}
    (reads : ∀ x ∈ list, read (item x) = pure (value x)) : (list.map item).mapM read = pure (list.map value) :=
  mapM_eq_pure_iff.mpr (List.forall₂_map_left_iff.mpr (List.forall₂_map_right_iff.mpr (List.forall₂_same.mpr reads)))

theorem exists_of_mem_mapM {list : List α} {values : List β} (reads : list.mapM read = pure values) {value : β}
    (member : value ∈ values) : ∃ item ∈ list, read item = pure value := by
  have each := mapM_eq_pure_iff.mp reads
  clear reads
  induction each with
  | nil => cases member
  | @cons item _ _ _ first _ ih =>
    rcases List.mem_cons.mp member with rfl | later
    · exact ⟨item, List.mem_cons_self, first⟩
    · exact (ih later).imp fun _ both => ⟨List.mem_cons_of_mem _ both.1, both.2⟩

theorem mapM_perm {list list' : List α} {values : List β} (perm : list.Perm list')
    (reads : list.mapM read = pure values) : ∃ values', list'.mapM read = pure values' ∧ values.Perm values' := by
  obtain ⟨values', reads', perm'⟩ := List.perm_comp_forall₂ perm.symm (mapM_eq_pure_iff.mp reads)
  exact ⟨values', mapM_eq_pure_iff.mpr reads', perm'.symm⟩

theorem mapM_append_eq_pure_iff {list list' : List α} {values : List β} :
    (list ++ list').mapM read = pure values ↔
      ∃ first others, list.mapM read = pure first ∧ list'.mapM read = pure others ∧ first ++ others = values := by
  rw [List.mapM_append]
  constructor
  · intro h
    obtain ⟨first, before, h⟩ := Peels.bind_eq_pure h
    obtain ⟨others, after, h⟩ := Peels.bind_eq_pure h
    exact ⟨first, others, before, after, Peels.pure_inj h⟩
  · rintro ⟨first, others, before, after, rfl⟩
    rw [before, pure_bind, after, pure_bind]

theorem mapM_cons_eq_pure_iff {item : α} {list : List α} {values : List β} :
    (item :: list).mapM read = pure values ↔
      ∃ value others, read item = pure value ∧ list.mapM read = pure others ∧ value :: others = values := by
  simp only [mapM_eq_pure_iff, List.forall₂_cons_left_iff, eq_comm (b := values)]

/-- A list gains the value of an item where it gains the item. -/
theorem mapM_insert {before after : List α} {item : α} {value : β} {values : List β}
    (reads : (before ++ after).mapM read = pure values) (here : read item = pure value) :
    ∃ first others, (before ++ item :: after).mapM read = pure (first ++ value :: others) ∧ first ++ others = values := by
  obtain ⟨first, others, earlier, later, rfl⟩ := mapM_append_eq_pure_iff.mp reads
  refine ⟨first, others, mapM_append_eq_pure_iff.mpr ⟨first, value :: others, earlier, ?_, rfl⟩, rfl⟩
  exact mapM_cons_eq_pure_iff.mpr ⟨value, others, here, later, rfl⟩

theorem mapM_exchange {before after : List α} {item item' : α} {values : List β}
    (reads : (before ++ item :: after).mapM read = pure values)
    (same : ∀ ⦃value⦄, read item = pure value → read item' = pure value) :
    (before ++ item' :: after).mapM read = pure values := by
  obtain ⟨first, rest, earlier, later, rfl⟩ := mapM_append_eq_pure_iff.mp reads
  obtain ⟨value, others, here, behind, rfl⟩ := mapM_cons_eq_pure_iff.mp later
  refine mapM_append_eq_pure_iff.mpr ⟨first, value :: others, earlier, ?_, rfl⟩
  exact mapM_cons_eq_pure_iff.mpr ⟨value, others, same here, behind, rfl⟩

theorem mapM_alike {alike : α → α → Prop} {related : β → β → Prop} {list list' : List α} {values : List β}
    (both : List.Forall₂ alike list list') (carries : Carries alike related read)
    (reads : list.mapM read = pure values) :
    ∃ values', list'.mapM read = pure values' ∧ List.Forall₂ related values values' := by
  have each := mapM_eq_pure_iff.mp reads
  clear reads
  induction both generalizing values with
  | nil =>
    obtain rfl := List.forall₂_nil_left_iff.mp each
    exact ⟨[], List.mapM_nil, .nil⟩
  | cons first _ ih =>
    obtain ⟨value, others, here, there, rfl⟩ := List.forall₂_cons_left_iff.mp each
    obtain ⟨value', read', relatedFirst⟩ := carries first here
    obtain ⟨others', reads', relatedOthers⟩ := ih there
    refine ⟨value' :: others', ?_, .cons relatedFirst relatedOthers⟩
    rw [List.mapM_cons, read', pure_bind, reads', pure_bind]

end Lists

end SwaggerSdk
