import Mathlib.Data.List.Induction
import SwaggerSdk.Naming.Claims
import SwaggerSdk.Proofs.Ascending

/-!
# What a set of claims holds

Claims made one after the other hold for each key the candidate that it claimed last. They are kept in the
order of their keys, so two sets of claims that agree on every key are the same, however they were made.
-/

namespace SwaggerSdk.Naming.Claims

/-! ### Making claims -/

theorem mem_insertEntry_iff {key candidate : String} {entries : List (String × String)}
    (ascending : Ascending Prod.fst entries) {entry : String × String} :
    entry ∈ insertEntry key candidate entries ↔ entry = (key, candidate) ∨ entry.1 ≠ key ∧ entry ∈ entries := by
  induction entries with
  | nil => simp [insertEntry]
  | cons first entries ih =>
    obtain ⟨above, ascending⟩ := List.pairwise_cons.mp ascending
    rw [insertEntry]
    split
    case isTrue below =>
      -- the key is new and lies below all that are there
      have fresh : ∀ other ∈ first :: entries, other.1 ≠ key := by
        intro other member same
        rcases List.mem_cons.mp member with rfl | member
        · exact String.ne_of_lt below same.symm
        · exact String.ne_of_lt (String.lt_trans below (above other member)) same.symm
      rw [List.mem_cons]
      exact or_congr_right ⟨fun member => ⟨fresh entry member, member⟩, And.right⟩
    case isFalse notBelow =>
      split
      case isTrue after =>
        have other : first.1 ≠ key := String.ne_of_lt after
        rw [List.mem_cons, ih ascending, List.mem_cons]
        constructor
        · rintro (rfl | rfl | ⟨different, member⟩)
          · exact Or.inr ⟨other, Or.inl rfl⟩
          · exact Or.inl rfl
          · exact Or.inr ⟨different, Or.inr member⟩
        · rintro (rfl | ⟨different, rfl | member⟩)
          · exact Or.inr (Or.inl rfl)
          · exact Or.inl rfl
          · exact Or.inr (Or.inr ⟨different, member⟩)
      case isFalse notAfter =>
        have same : first.1 = key := String.le_antisymm (String.not_lt.mp notBelow) (String.not_lt.mp notAfter)
        rw [List.mem_cons, List.mem_cons]
        constructor
        · rintro (rfl | member)
          · exact Or.inl rfl
          · exact Or.inr ⟨fun again => String.ne_of_lt (above entry member) (same.trans again.symm), Or.inr member⟩
        · rintro (rfl | ⟨different, rfl | member⟩)
          · exact Or.inl rfl
          · exact absurd same different
          · exact Or.inr member

theorem mem_claim {claims : Claims} {key candidate : String} {entry : String × String} :
    entry ∈ (claims.claim key candidate).entries ↔
      entry = (key, candidate) ∨ entry.1 ≠ key ∧ entry ∈ claims.entries :=
  mem_insertEntry_iff claims.ascending

theorem ofList_append_singleton (list : List (String × String)) (entry : String × String) :
    ofList (list ++ [entry]) = (ofList list).claim entry.1 entry.2 := by
  simp [ofList]

/-- A key holds the candidate that it claimed last. -/
theorem mem_ofList {list : List (String × String)} {key candidate : String} :
    (key, candidate) ∈ (ofList list).entries ↔ list.reverse.lookup key = some candidate := by
  induction list using List.reverseRecOn with
  | nil => simp [ofList, empty]
  | append_singleton list entry ih =>
    rw [ofList_append_singleton, mem_claim, ih, List.reverse_append, List.reverse_singleton,
      List.singleton_append, Table.lookup_cons_eq]
    split
    case isTrue same =>
      simp only [Prod.mk.injEq, same, true_and, not_true_eq_false, ne_eq, false_and, or_false, Option.some.injEq]
      exact eq_comm
    case isFalse different =>
      have unequal : (key, candidate) ≠ (entry.1, entry.2) := fun same => different (congrArg Prod.fst same)
      exact ⟨fun h => (h.resolve_left unequal).2, fun h => Or.inr ⟨different, h⟩⟩

theorem mem_ofList_of_distinct {list : List (String × String)} (distinct : (list.map (·.1)).Nodup)
    {entry : String × String} : entry ∈ (ofList list).entries ↔ entry ∈ list := by
  have distinct' : (list.reverse.map (·.1)).Nodup := by
    rw [List.map_reverse, List.nodup_reverse]
    exact distinct
  obtain ⟨key, candidate⟩ := entry
  rw [mem_ofList, lookup_eq_some_iff distinct', List.mem_reverse]

theorem mem_keys_ofList {list : List (String × String)} {key : String} :
    key ∈ (ofList list).entries.map (·.1) ↔ key ∈ list.map (·.1) := by
  simp only [List.mem_map, Prod.exists, exists_and_right, exists_eq_right]
  constructor
  · rintro ⟨candidate, member⟩
    exact ⟨candidate, List.mem_reverse.mp (mem_of_lookup (mem_ofList.mp member))⟩
  · rintro ⟨candidate, member⟩
    cases found : list.reverse.lookup key with
    | some last => exact ⟨last, mem_ofList.mpr found⟩
    | none =>
      have absent := List.lookup_eq_none_iff.mp found (key, candidate) (List.mem_reverse.mpr member)
      simp at absent

/-! ### Candidates and those who claim them -/

theorem mem_candidates {claims : Claims} {candidate : String} :
    candidate ∈ claims.candidates ↔ ∃ key, (key, candidate) ∈ claims.entries := by
  rw [candidates, mem_keys_ofList]
  simp

theorem ascending_candidates (claims : Claims) : Ascending id claims.candidates :=
  ascending_map_iff.mpr (ofList _).ascending

theorem mem_claimants {claims : Claims} {candidate key : String} :
    key ∈ claims.claimants candidate ↔ (key, candidate) ∈ claims.entries := by
  simp [claimants]

theorem ascending_claimants (claims : Claims) (candidate : String) :
    Ascending id (claims.claimants candidate) :=
  ascending_map_iff.mpr (claims.ascending.sublist List.filter_sublist)

theorem nodup_keys (claims : Claims) : (claims.entries.map (·.1)).Nodup :=
  nodup_of_ascending claims.ascending

end SwaggerSdk.Naming.Claims
