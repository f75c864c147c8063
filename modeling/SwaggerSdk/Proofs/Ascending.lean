import Mathlib.Data.List.Nodup
import SwaggerSdk.Table

/-!
# Lists in ascending order of a text

Lists whose members have a text each, no two the same, in ascending order. Such a list is known by its
members, so whatever is sorted in this way does not show the order that it came in.
-/

namespace SwaggerSdk

section Ascending

variable {α : Type} {key : α → String} {list list' : List α}

/-- The texts of the members ascend. -/
def Ascending (key : α → String) (list : List α) : Prop := list.Pairwise fun a b => key a < key b

theorem ascending_map_iff : Ascending id (list.map key) ↔ Ascending key list := by
  simp [Ascending, List.pairwise_map]

theorem nodup_of_ascending (ascending : Ascending key list) : (list.map key).Nodup :=
  List.pairwise_map.mpr (ascending.imp String.ne_of_lt)

/-- Two ascending lists with the same members are the same list. -/
theorem ascending_ext (ascending : Ascending key list) (ascending' : Ascending key list')
    (same : ∀ a, a ∈ list ↔ a ∈ list') : list = list' := by
  have perm : list.Perm list' := (List.perm_ext_iff_of_nodup
    (nodup_of_ascending ascending).of_map (nodup_of_ascending ascending').of_map).mpr same
  refine perm.eq_of_pairwise (fun a b _ _ before after => ?_) ascending ascending'
  exact absurd (String.lt_trans before after) (String.lt_irrefl _)

/-! ### Sorting by a text -/

theorem le_trans_key (key : α → String) (a b c : α) :
    decide (key a ≤ key b) = true → decide (key b ≤ key c) = true → decide (key a ≤ key c) = true := by
  simpa only [decide_eq_true_eq] using String.le_trans

theorem le_total_key (key : α → String) (a b : α) : (decide (key a ≤ key b) || decide (key b ≤ key a)) = true := by
  simpa only [Bool.or_eq_true, decide_eq_true_eq] using String.le_total (key a) (key b)

theorem pairwise_mergeSort_key (key : α → String) (list : List α) :
    (list.mergeSort fun a b => decide (key a ≤ key b)).Pairwise fun a b => key a ≤ key b :=
  (List.pairwise_mergeSort (le_trans_key key) (le_total_key key) list).imp of_decide_eq_true

/-- The members of one text stay in their order. -/
theorem filter_mergeSort_key (key : α → String) (text : String) (list : List α) :
    (list.mergeSort fun a b => decide (key a ≤ key b)).filter (key · == text) = list.filter (key · == text) := by
  have tied : (list.filter (key · == text)).Pairwise fun a b => decide (key a ≤ key b) = true := by
    refine List.pairwise_of_forall_mem_list fun a memberA b memberB => ?_
    rw [eq_of_beq (List.mem_filter.mp memberA).2, eq_of_beq (List.mem_filter.mp memberB).2]
    exact decide_eq_true (String.le_refl _)
  have kept : (list.filter (key · == text)).Sublist (list.mergeSort fun a b => decide (key a ≤ key b)) :=
    List.sublist_mergeSort (le_trans_key key) (le_total_key key) tied List.filter_sublist
  have inside := kept.filter (key · == text)
  rw [List.filter_filter, List.filter_congr fun a _ => Bool.and_self _] at inside
  -- nothing else has this text, since sorting only permutes
  refine (inside.eq_of_length ?_).symm
  exact ((List.mergeSort_perm list _).filter _).length_eq.symm

theorem ascending_mergeSort (distinct : (list.map key).Nodup) :
    Ascending key (list.mergeSort fun a b => decide (key a ≤ key b)) := by
  have apart : ((list.mergeSort fun a b => decide (key a ≤ key b)).map key).Nodup :=
    ((List.mergeSort_perm list _).map key).nodup_iff.mpr distinct
  refine ((pairwise_mergeSort_key key list).and (List.pairwise_map.mp apart)).imp fun {a b} ⟨before, different⟩ => ?_
  refine String.not_le.mp fun after => different ?_
  exact String.le_antisymm before after

/-! ### Members below a text -/

/-- Of an ascending list, what lies below a member is what stands before it. -/
theorem countP_below_of_split {text : String} {earlier later : List String}
    (ascending : Ascending id (earlier ++ text :: later)) (p : String → Bool) :
    (earlier ++ text :: later).countP (fun other => decide (other < text) && p other) = earlier.countP p := by
  obtain ⟨-, ascending, below⟩ := List.pairwise_append.mp ascending
  have above := (List.pairwise_cons.mp ascending).1
  have none : (text :: later).countP (fun other => decide (other < text) && p other) = 0 := by
    refine List.countP_eq_zero.mpr fun other member both => ?_
    have before : other < text := of_decide_eq_true (Bool.and_eq_true_iff.mp both).1
    rcases List.mem_cons.mp member with rfl | member
    · exact String.lt_irrefl _ before
    · exact String.lt_irrefl _ (String.lt_trans before (above other member))
  rw [List.countP_append, none, Nat.add_zero]
  refine List.countP_congr fun other member => ?_
  have before : decide (other < text) = true := decide_eq_true (below other member text List.mem_cons_self)
  rw [before, Bool.true_and]

end Ascending

section Lookup

variable {κ α : Type} [DecidableEq κ] {entries : List (κ × α)} {key : κ} {value : α}

theorem mem_of_lookup (found : entries.lookup key = some value) : (key, value) ∈ entries := by
  induction entries with
  | nil => cases found
  | cons entry entries ih =>
    rw [Table.lookup_cons_eq] at found
    split at found
    · rename_i same
      cases found
      rw [same]
      exact List.mem_cons_self
    · exact List.mem_cons_of_mem _ (ih found)

theorem lookup_eq_some_iff (distinct : (entries.map (·.1)).Nodup) :
    entries.lookup key = some value ↔ (key, value) ∈ entries := by
  refine ⟨mem_of_lookup, fun member => ?_⟩
  induction entries with
  | nil => cases member
  | cons entry entries ih =>
    obtain ⟨fresh, distinct⟩ := List.nodup_cons.mp distinct
    rw [Table.lookup_cons_eq]
    rcases List.mem_cons.mp member with rfl | member
    · rw [if_pos rfl]
    · have other : key ≠ entry.1 := by
        rintro rfl
        exact fresh (List.mem_map.mpr ⟨_, member, rfl⟩)
      rw [if_neg other]
      exact ih distinct member

theorem lookup_perm {entries' : List (κ × α)} (distinct : (entries.map (·.1)).Nodup)
    (perm : entries.Perm entries') : entries.lookup key = entries'.lookup key := by
  have distinct' : (entries'.map (·.1)).Nodup := (perm.map _).nodup_iff.mp distinct
  ext value
  rw [lookup_eq_some_iff distinct, lookup_eq_some_iff distinct', perm.mem_iff]

end Lookup

end SwaggerSdk
