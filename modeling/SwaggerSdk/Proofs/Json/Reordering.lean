import SwaggerSdk.Json.Document
import SwaggerSdk.Proofs.Peels

/-!
# Objects with their members in another order

Two trees are reorderings of each other if one is made from the other by permuting the members of objects, at any
depth and any number of times (`Tree.Reordered`). Seen from the top, such trees have reordered items in the same
order, or reordered values under the same keys in any order (`Tree.Layered`).
-/

namespace SwaggerSdk.Json

namespace Tree

/-- Trees that differ in nothing but the order of members, in any of their objects. -/
inductive Reordered : Tree → Tree → Prop
  | refl (tree : Tree) : Reordered tree tree
  | trans {tree tree' tree'' : Tree} : Reordered tree tree' → Reordered tree' tree'' → Reordered tree tree''
  | members {members members' : List (Lexeme × Tree)} {fault : Option Fault} :
      members.Perm members' → Reordered (.object members fault) (.object members' fault)
  | item {before after : List Tree} {fault : Option Fault} {tree tree' : Tree} :
      Reordered tree tree' →
        Reordered (.array (before ++ tree :: after) fault) (.array (before ++ tree' :: after) fault)
  | value {before after : List (Lexeme × Tree)} {fault : Option Fault} {key : Lexeme} {tree tree' : Tree} :
      Reordered tree tree' →
        Reordered (.object (before ++ (key, tree) :: after) fault) (.object (before ++ (key, tree') :: after) fault)

theorem Reordered.symm {tree tree' : Tree} (reordered : Reordered tree tree') : Reordered tree' tree := by
  induction reordered with
  | refl tree => exact .refl tree
  | trans _ _ ih ih' => exact .trans ih' ih
  | members perm => exact .members perm.symm
  | item _ ih => exact .item ih
  | value _ ih => exact .value ih

/-- Reordered trees as they look from the top: item by item and member by member. -/
inductive Layered : Tree → Tree → Prop
  | same (tree : Tree) : Layered tree tree
  | array {items items' : List Tree} {fault : Option Fault} :
      List.Forall₂ Reordered items items' → Layered (.array items fault) (.array items' fault)
  | object {members middle members' : List (Lexeme × Tree)} {fault : Option Fault} :
      List.Forall₂ (Keyed Reordered) members middle → middle.Perm members' →
        Layered (.object members fault) (.object members' fault)

section Forall₂

variable {α : Type} {related : α → α → Prop}

theorem forall₂_middle (refl : ∀ x, related x x) {x y : α} (here : related x y) (before after : List α) :
    List.Forall₂ related (before ++ x :: after) (before ++ y :: after) :=
  List.rel_append (List.forall₂_same.mpr fun x _ => refl x) (.cons here (List.forall₂_same.mpr fun x _ => refl x))

theorem forall₂_trans (trans : ∀ {x y z}, related x y → related y z → related x z) {xs ys zs : List α}
    (first : List.Forall₂ related xs ys) (second : List.Forall₂ related ys zs) : List.Forall₂ related xs zs := by
  induction first generalizing zs with
  | nil => exact second
  | cons here _ ih =>
    cases second with
    | cons there others => exact .cons (trans here there) (ih others)

end Forall₂

theorem Layered.trans {tree tree' tree'' : Tree} (first : Layered tree tree') (second : Layered tree' tree'') :
    Layered tree tree'' := by
  cases first with
  | same => exact second
  | array items =>
    cases second with
    | same => exact .array items
    | array items' => exact .array (forall₂_trans .trans items items')
  | object values perm =>
    cases second with
    | same => exact .object values perm
    | object values' perm' =>
      obtain ⟨others, values'', perm''⟩ := List.perm_comp_forall₂ perm values'
      refine .object (forall₂_trans ?_ values values'') (perm''.trans perm')
      exact fun one other => ⟨one.key.trans other.key, one.value.trans other.value⟩

theorem Reordered.layered {tree tree' : Tree} (reordered : Reordered tree tree') : Layered tree tree' := by
  induction reordered with
  | refl tree => exact .same tree
  | trans _ _ ih ih' => exact ih.trans ih'
  | members perm => exact .object (List.forall₂_same.mpr fun member _ => ⟨rfl, .refl member.2⟩) perm
  | item inner => exact .array (forall₂_middle .refl inner _ _)
  | value inner => exact .object (forall₂_middle (fun member => ⟨rfl, .refl member.2⟩) ⟨rfl, inner⟩ _ _) (.refl _)

theorem Reordered.array {items items' : List Tree} {fault : Option Fault} (both : List.Forall₂ Reordered items items') :
    Reordered (.array items fault) (.array items' fault) := by
  -- one item is exchanged after the other; those before it have been exchanged already
  have behind : ∀ before, Reordered (.array (before ++ items) fault) (.array (before ++ items') fault) := by
    induction both with
    | nil => exact fun before => .refl _
    | @cons first first' items items' here _ ih =>
      intro before
      have others := ih (before ++ [first'])
      rw [List.append_assoc, List.append_assoc] at others
      exact (Reordered.item here).trans others
  exact behind []

theorem Reordered.object {members middle members' : List (Lexeme × Tree)} {fault : Option Fault}
    (both : List.Forall₂ (Keyed Reordered) members middle) (perm : middle.Perm members') :
    Reordered (.object members fault) (.object members' fault) := by
  have behind : ∀ before, Reordered (.object (before ++ members) fault) (.object (before ++ middle) fault) := by
    clear perm
    induction both with
    | nil => exact fun before => .refl _
    | @cons first first' members middle here _ ih =>
      intro before
      have others := ih (before ++ [first'])
      rw [List.append_assoc, List.append_assoc] at others
      obtain ⟨key, tree⟩ := first
      obtain ⟨_, tree'⟩ := first'
      obtain ⟨rfl, inner⟩ := here
      exact (Reordered.value inner).trans others
  exact (behind []).trans (.members perm)

/-! ### Keys -/

/-- The names that members have; a key that cannot be read names none. -/
def keyNames (members : List (Lexeme × Tree)) : List String := members.filterMap fun member => member.1.read.toOption

mutual

/-- No object in the tree has two members of one name. -/
def hasDistinctKeys : Tree → Bool
  | .array items _ => itemsHaveDistinctKeys items
  | .object members _ => decide (keyNames members).Nodup && membersHaveDistinctKeys members
  | _ => true

def itemsHaveDistinctKeys : List Tree → Bool
  | [] => true
  | item :: items => hasDistinctKeys item && itemsHaveDistinctKeys items

def membersHaveDistinctKeys : List (Lexeme × Tree) → Bool
  | [] => true
  | (_, value) :: members => hasDistinctKeys value && membersHaveDistinctKeys members

end

theorem hasDistinctKeys_array {items : List Tree} {fault : Option Fault} :
    hasDistinctKeys (.array items fault) ↔ ∀ item ∈ items, hasDistinctKeys item := by
  rw [hasDistinctKeys]
  induction items with
  | nil => simp [itemsHaveDistinctKeys]
  | cons item items ih => simp [itemsHaveDistinctKeys, ih]

theorem hasDistinctKeys_object {members : List (Lexeme × Tree)} {fault : Option Fault} :
    hasDistinctKeys (.object members fault) ↔
      (keyNames members).Nodup ∧ ∀ member ∈ members, hasDistinctKeys member.2 := by
  have values : membersHaveDistinctKeys members ↔ ∀ member ∈ members, hasDistinctKeys member.2 := by
    induction members with
    | nil => simp [membersHaveDistinctKeys]
    | cons member members ih => simp [membersHaveDistinctKeys, ih]
  rw [hasDistinctKeys, Bool.and_eq_true, decide_eq_true_eq, values]

/-! ### Faults -/

theorem itemsFault?_eq_none {items : List Tree} : itemsFault? items = none ↔ ∀ item ∈ items, fault? item = none := by
  induction items with
  | nil => simp [itemsFault?]
  | cons item items ih => simp [itemsFault?, ih]

theorem membersFault?_eq_none {members : List (Lexeme × Tree)} :
    membersFault? members = none ↔ ∀ member ∈ members, member.1.fault = none ∧ fault? member.2 = none := by
  induction members with
  | nil => simp [membersFault?]
  | cons member members ih => simp [membersFault?, ih, and_assoc]

theorem fault?_reordered {tree tree' : Tree} (reordered : Reordered tree tree') (complete : tree.fault? = none) :
    tree'.fault? = none := by
  induction reordered with
  | refl => exact complete
  | trans _ _ ih ih' => exact ih' (ih complete)
  | members perm =>
    simp only [fault?, Option.or_eq_none_iff, membersFault?_eq_none] at complete ⊢
    exact ⟨fun member listed => complete.1 member (perm.mem_iff.mpr listed), complete.2⟩
  | item _ ih =>
    simp only [fault?, Option.or_eq_none_iff, itemsFault?_eq_none, List.forall_mem_append,
      List.forall_mem_cons] at complete ⊢
    exact ⟨⟨complete.1.1, ih complete.1.2.1, complete.1.2.2⟩, complete.2⟩
  | value _ ih =>
    simp only [fault?, Option.or_eq_none_iff, membersFault?_eq_none, List.forall_mem_append,
      List.forall_mem_cons] at complete ⊢
    exact ⟨⟨complete.1.1, ⟨complete.1.2.1.1, ih complete.1.2.1.2⟩, complete.1.2.2⟩, complete.2⟩

theorem skip_reordered {tree tree' : Tree} (reordered : Reordered tree tree') (skipped : tree.skip = pure ()) :
    tree'.skip = pure () := by
  have complete : tree.fault? = none := by
    unfold skip at skipped
    split at skipped
    · assumption
    · cases skipped
  rw [skip, fault?_reordered reordered complete]
  rfl

end Tree

end SwaggerSdk.Json
