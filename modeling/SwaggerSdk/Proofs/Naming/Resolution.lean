import SwaggerSdk.Proofs.Naming.ClaimTable
import SwaggerSdk.Proofs.Naming.Spelling

/-!
# How claims are resolved

The names that a run over the candidates gives, read off without the run: the first claimant of a candidate
gets it bare, and the others are renamed one after the other. `lookup_resolve_iff` says what is found under
a key, and `nodup_names_assign` that no name is given twice, whatever the candidates are.
-/

namespace SwaggerSdk.Naming

/-- The names of keys that do not get their candidates, in the order in which they are given. -/
def renamings (taken : List String) : List (String × String) → List (String × String)
  | [] => []
  | (candidate, key) :: rest =>
    let name := freeSpelling taken (renamed candidate key)
    (key, name) :: renamings (name :: taken) rest

theorem keys_renamings (taken : List String) (list : List (String × String)) :
    (renamings taken list).map (·.1) = list.map (·.2) := by
  induction list generalizing taken with
  | nil => rfl
  | cons entry list ih => simp only [renamings, List.map_cons, ih]

theorem renamings_append (taken : List String) (list list' : List (String × String)) :
    renamings taken (list ++ list') = renamings taken list ++
      renamings (((renamings taken list).map (·.2)).reverse ++ taken) list' := by
  induction list generalizing taken with
  | nil => rfl
  | cons entry list ih =>
    simp only [List.cons_append, renamings, ih, List.map_cons, List.reverse_cons, List.append_assoc,
      List.nil_append]

theorem notMem_taken_of_mem_renamings {taken : List String} {list : List (String × String)} {name : String}
    (h : name ∈ (renamings taken list).map (·.2)) : name ∉ taken := by
  induction list generalizing taken with
  | nil => cases h
  | cons entry list ih =>
    rw [renamings, List.map_cons] at h
    rcases List.mem_cons.mp h with rfl | h
    · exact freeSpelling_notMem _ _
    · exact fun member => ih h (List.mem_cons_of_mem _ member)

theorem nodup_names_renamings (taken : List String) (list : List (String × String)) :
    ((renamings taken list).map (·.2)).Nodup := by
  induction list generalizing taken with
  | nil => exact List.nodup_nil
  | cons entry list ih =>
    rw [renamings, List.map_cons]
    exact List.nodup_cons.mpr ⟨fun again => notMem_taken_of_mem_renamings again List.mem_cons_self, ih _⟩

namespace Claims

variable (claims : Claims)

def owned (candidate : String) : List (String × String) :=
  ((claims.claimants candidate).head?.map (·, candidate)).toList

/-- The other claimants, behind the candidate that they do not get. -/
def outvoted (candidate : String) : List (String × String) :=
  (claims.claimants candidate).tail.map (candidate, ·)

/-- All keys that do not get their candidates, in the order of the candidates and then of the keys. -/
def losing : List (String × String) := claims.candidates.flatMap claims.outvoted

theorem mem_of_mem_flatMap_outvoted {candidates : List String} {entry : String × String}
    (h : entry ∈ candidates.flatMap claims.outvoted) : entry.1 ∈ candidates := by
  obtain ⟨candidate, member, lost⟩ := List.mem_flatMap.mp h
  obtain ⟨key, -, rfl⟩ := List.mem_map.mp lost
  exact member

/-! ### The run over the candidates -/

theorem foldl_rename (candidate : String) (keys : List String) (state : Assignment) :
    keys.foldl (Assignment.rename candidate) state =
      let given := renamings state.taken (keys.map (candidate, ·))
      ⟨(given.map (·.2)).reverse ++ state.taken, given.reverse ++ state.names⟩ := by
  induction keys generalizing state with
  | nil => rfl
  | cons key keys ih =>
    rw [List.foldl_cons, ih]
    simp only [List.map_cons, renamings, Assignment.rename, renamed, List.reverse_cons, List.append_assoc,
      List.singleton_append]

theorem assignGroup_eq (state : Assignment) (candidate : String) :
    Assignment.assignGroup claims state candidate =
      let given := renamings state.taken (claims.outvoted candidate)
      ⟨(given.map (·.2)).reverse ++ state.taken, given.reverse ++ (claims.owned candidate ++ state.names)⟩ := by
  unfold Assignment.assignGroup owned outvoted
  cases claims.claimants candidate with
  | nil => rfl
  | cons owner others => exact foldl_rename candidate others _

/-- The order in which groups are worked off shows in the renamings alone. -/
theorem names_foldl_assignGroup_perm (candidates : List String) (state : Assignment) :
    (candidates.foldl (Assignment.assignGroup claims) state).names.Perm
      (candidates.flatMap claims.owned ++ renamings state.taken (candidates.flatMap claims.outvoted) ++
        state.names) := by
  induction candidates generalizing state with
  | nil => exact List.Perm.refl _
  | cons candidate candidates ih =>
    rw [List.foldl_cons]
    refine (ih _).trans (List.perm_iff_count.mpr fun entry => ?_)
    simp only [assignGroup_eq, List.flatMap_cons, renamings_append, List.count_append, List.count_reverse]
    omega

theorem names_assign_perm :
    claims.assign.names.Perm
      (claims.candidates.flatMap claims.owned ++ renamings claims.candidates claims.losing) := by
  have perm := claims.names_foldl_assignGroup_perm claims.candidates ⟨claims.candidates, []⟩
  rw [List.append_nil] at perm
  exact perm

/-! ### Keys -/

theorem owned_append_outvoted (candidate : String) :
    (claims.owned candidate).map (·.1) ++ (claims.outvoted candidate).map (·.2) = claims.claimants candidate := by
  unfold owned outvoted
  cases claims.claimants candidate with
  | nil => rfl
  | cons owner others => simp

theorem keys_assign_perm_flatMap :
    (claims.assign.names.map (·.1)).Perm (claims.candidates.flatMap claims.claimants) := by
  refine (claims.names_assign_perm.map _).trans ?_
  rw [List.map_append, keys_renamings, losing, List.map_flatMap, List.map_flatMap]
  generalize claims.candidates = candidates
  refine List.perm_iff_count.mpr fun key => ?_
  induction candidates with
  | nil => rfl
  | cons candidate candidates ih =>
    simp only [List.flatMap_cons, List.count_append, ← claims.owned_append_outvoted candidate] at ih ⊢
    omega

theorem candidate_unique {key candidate candidate' : String} (h : (key, candidate) ∈ claims.entries)
    (h' : (key, candidate') ∈ claims.entries) : candidate = candidate' := by
  rw [← lookup_eq_some_iff claims.nodup_keys] at h h'
  exact Option.some.inj (h.symm.trans h')

theorem nodup_flatMap_claimants : (claims.candidates.flatMap claims.claimants).Nodup := by
  rw [List.nodup_flatMap]
  refine ⟨fun candidate _ => ?_, ?_⟩
  · simpa using nodup_of_ascending (claims.ascending_claimants candidate)
  · refine claims.ascending_candidates.imp fun before key h h' => ?_
    have same := claims.candidate_unique (mem_claimants.mp h) (mem_claimants.mp h')
    exact String.ne_of_lt before same

theorem nodup_keys_assign : (claims.assign.names.map (·.1)).Nodup :=
  claims.keys_assign_perm_flatMap.nodup_iff.mpr claims.nodup_flatMap_claimants

theorem mem_keys_assign {key : String} :
    key ∈ claims.assign.names.map (·.1) ↔ key ∈ claims.entries.map (·.1) := by
  rw [claims.keys_assign_perm_flatMap.mem_iff, List.mem_flatMap]
  simp only [mem_claimants, mem_candidates, List.mem_map, Prod.exists, exists_and_right, exists_eq_right]
  constructor
  · rintro ⟨candidate, -, member⟩
    exact ⟨candidate, member⟩
  · rintro ⟨candidate, member⟩
    exact ⟨candidate, ⟨key, member⟩, member⟩

/-- A key finds the name that was given to it. -/
theorem lookup_resolve_iff {key name : String} :
    claims.resolve.lookup key = some name ↔ (key, name) ∈ claims.assign.names := by
  have perm : claims.resolve.Perm claims.assign.names := List.mergeSort_perm _ _
  rw [lookup_eq_some_iff ((perm.map _).nodup_iff.mpr claims.nodup_keys_assign), perm.mem_iff]

/-! ### Names -/

theorem mem_owned {key name candidate : String} :
    (key, name) ∈ claims.owned candidate ↔ (claims.claimants candidate).head? = some key ∧ name = candidate := by
  unfold owned
  cases (claims.claimants candidate).head? with
  | none => simp
  | some owner => simp [eq_comm]

theorem names_owned_of_mem {candidate : String} (h : candidate ∈ claims.candidates) :
    (claims.owned candidate).map (·.2) = [candidate] := by
  obtain ⟨key, member⟩ := mem_candidates.mp h
  have claimed := mem_claimants.mpr member
  unfold owned
  cases hc : claims.claimants candidate with
  | nil => rw [hc] at claimed; cases claimed
  | cons owner others => rfl

theorem names_owned : (claims.candidates.flatMap claims.owned).map (·.2) = claims.candidates := by
  rw [List.map_flatMap, List.flatMap_congr fun _ member => claims.names_owned_of_mem member]
  simp

/-- No name is given twice. -/
theorem nodup_names_assign : (claims.assign.names.map (·.2)).Nodup := by
  rw [(claims.names_assign_perm.map _).nodup_iff, List.map_append, claims.names_owned, List.nodup_append]
  refine ⟨?_, nodup_names_renamings _ _, fun name bare other given same => ?_⟩
  · simpa using nodup_of_ascending claims.ascending_candidates
  · exact notMem_taken_of_mem_renamings given (same ▸ bare)

end Claims

end SwaggerSdk.Naming
