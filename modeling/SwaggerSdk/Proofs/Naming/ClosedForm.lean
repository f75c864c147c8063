import SwaggerSdk.Proofs.Naming.Resolution

/-!
# The names of claims in closed form

If no candidate has an underscore, the name of a key depends on the keys of its own candidate alone: the
smallest of them keeps the candidate bare, and for each other one the counter tells how many keys before it
have its digest. `lookup_resolve_eq` says so of a whole run.
-/

namespace SwaggerSdk.Naming

/-- The keys before a key that have its digest; the smallest key is not counted, as it needs no digest. -/
def collisions (keys : List String) (key : String) : Nat :=
  keys.countP fun other =>
    decide (other < key) && keys.any (fun least => decide (least < other)) && shortDigest other == shortDigest key

/-- The name of a key, given all keys that claim the same candidate. -/
def publishedName (keys : List String) (candidate key : String) : String :=
  if ∀ other ∈ keys, key ≤ other then candidate
  else candidate ++ "__" ++ shortDigest key ++ counter (collisions keys key)

/-! ### Renaming with counters -/

theorem renamed_eq_iff {candidate candidate' key key' : String} :
    renamed candidate key = renamed candidate' key' ↔ candidate = candidate' ∧ shortDigest key = shortDigest key' := by
  constructor
  · intro same
    have spelled : renamed candidate key ++ counter 0 = renamed candidate' key' ++ counter 0 := by rw [same]
    obtain ⟨candidates, digests, -⟩ := renamed_inj spelled
    exact ⟨candidates, digests⟩
  · rintro ⟨rfl, digests⟩
    rw [renamed, renamed, digests]

/-- Of every base name the spellings below its counter are taken, and no others. -/
def TakenBelow (used : String → Nat) (taken : List String) : Prop :=
  ∀ candidate key n, '_' ∉ candidate.toList →
    (renamed candidate key ++ counter n ∈ taken ↔ n < used (renamed candidate key))

def countUp (used : String → Nat) (base : String) : String → Nat :=
  fun other => used other + if base = other then 1 else 0

theorem freeSpelling_of_takenBelow {used : String → Nat} {taken : List String} {candidate key : String}
    (h : TakenBelow used taken) (plain : '_' ∉ candidate.toList) :
    freeSpelling taken (renamed candidate key) =
      renamed candidate key ++ counter (used (renamed candidate key)) :=
  freeSpelling_eq fun n => h candidate key n plain

theorem takenBelow_cons {used : String → Nat} {taken : List String} (h : TakenBelow used taken)
    (candidate key : String) :
    TakenBelow (countUp used (renamed candidate key))
      ((renamed candidate key ++ counter (used (renamed candidate key))) :: taken) := by
  intro candidate' key' n plain'
  rw [List.mem_cons, h candidate' key' n plain', countUp]
  split
  case isTrue same =>
    rw [← same]
    constructor
    · rintro (again | below)
      · have := spelling_inj again
        omega
      · omega
    · intro below
      by_cases last : n = used (renamed candidate key)
      · exact Or.inl (by rw [last])
      · exact Or.inr (by omega)
  case isFalse different =>
    refine ⟨fun h => h.resolve_left fun same => different ?_, Or.inr⟩
    obtain ⟨candidates, digests, -⟩ := renamed_inj same
    exact (renamed_eq_iff.mpr ⟨candidates, digests⟩).symm

/-- A counter moves up once for each earlier entry with the same base name. -/
theorem mem_renamings {used : String → Nat} {taken : List String} {mid tail : List (String × String)}
    {candidate key : String} (h : TakenBelow used taken) (plainMid : ∀ entry ∈ mid, '_' ∉ entry.1.toList)
    (plain : '_' ∉ candidate.toList) :
    (key, renamed candidate key ++ counter (used (renamed candidate key) +
        mid.countP fun entry => renamed entry.1 entry.2 == renamed candidate key)) ∈
      renamings taken (mid ++ (candidate, key) :: tail) := by
  induction mid generalizing used taken with
  | nil =>
    rw [List.nil_append, renamings, freeSpelling_of_takenBelow h plain]
    exact List.mem_cons_self
  | cons entry mid ih =>
    have plain₀ := plainMid entry List.mem_cons_self
    have next := ih (takenBelow_cons h entry.1 entry.2)
      fun other member => plainMid other (List.mem_cons_of_mem _ member)
    rw [List.cons_append, renamings, freeSpelling_of_takenBelow h plain₀]
    refine List.mem_cons_of_mem _ ?_
    -- an entry with the same base name has moved the counter up by the time that the rest is worked off
    have total : countUp used (renamed entry.1 entry.2) (renamed candidate key) +
        (mid.countP fun entry => renamed entry.1 entry.2 == renamed candidate key) =
        used (renamed candidate key) +
          (entry :: mid).countP fun entry => renamed entry.1 entry.2 == renamed candidate key := by
      rw [List.countP_cons, countUp]
      by_cases same : renamed entry.1 entry.2 = renamed candidate key
      · simp only [same, if_true, beq_self_eq_true]
        omega
      · simp only [same, if_false, beq_iff_eq, Nat.add_zero]
    rw [← total]
    exact next

/-! ### The keys of one candidate -/

theorem publishedName_perm {keys keys' : List String} (perm : keys.Perm keys') (candidate key : String) :
    publishedName keys candidate key = publishedName keys' candidate key := by
  have count : collisions keys key = collisions keys' key := by
    unfold collisions
    simp only [perm.any_eq]
    exact perm.countP_eq _
  unfold publishedName
  simp only [count, perm.mem_iff]

theorem publishedName_of_least {keys : List String} {candidate key : String} (least : ∀ other ∈ keys, key ≤ other) :
    publishedName keys candidate key = candidate := if_pos least

theorem publishedName_of_not_least {keys : List String} {candidate key other : String} (member : other ∈ keys)
    (below : other < key) :
    publishedName keys candidate key = renamed candidate key ++ counter (collisions keys key) :=
  if_neg fun least => String.not_le.mpr below (least other member)

/-- Only a key before it with the same digest makes a key take a counter. -/
theorem exists_collision_of_counter {keys : List String} {candidate key : String} {n : Nat}
    (plain : '_' ∉ candidate.toList)
    (h : publishedName keys candidate key = candidate ++ "__" ++ shortDigest key ++ "_" ++ toString n) :
    ∃ other ∈ keys, other < key ∧ shortDigest other = shortDigest key := by
  unfold publishedName at h
  split at h
  · refine absurd ?_ plain
    rw [h]
    simp
  · have suffixes := (String.append_right_inj _).mp (h.trans String.append_assoc)
    have counted : 0 < collisions keys key := by
      refine Nat.pos_of_ne_zero fun none => ?_
      rw [none] at suffixes
      have chars := congrArg String.toList suffixes
      simp [counter] at chars
    obtain ⟨other, member, both⟩ := List.countP_pos_iff.mp counted
    simp only [Bool.and_eq_true, decide_eq_true_eq, beq_iff_eq] at both
    exact ⟨other, member, both.1.1, both.2⟩

theorem collisions_of_distinct {keys : List String} {key : String} (digests : (keys.map shortDigest).Nodup)
    (member : key ∈ keys) : collisions keys key = 0 := by
  refine List.countP_eq_zero.mpr fun other member' both => ?_
  simp only [Bool.and_eq_true, decide_eq_true_eq, beq_iff_eq] at both
  have same := List.inj_on_of_nodup_map digests member' member both.2
  exact String.lt_irrefl _ (same ▸ both.1.1)

/-- One more key takes the bare candidate from a larger one and changes no other name, if no digests meet. -/
theorem publishedName_cons {added key candidate : String} {keys : List String} (plain : '_' ∉ candidate.toList)
    (digests : ((added :: keys).map shortDigest).Nodup) (member : key ∈ keys) :
    publishedName (added :: keys) candidate key =
      if publishedName keys candidate key = candidate ∧ added < key then candidate ++ "__" ++ shortDigest key
      else publishedName keys candidate key := by
  have member' : key ∈ added :: keys := List.mem_cons_of_mem _ member
  have suffix : renamed candidate key ++ counter 0 = candidate ++ "__" ++ shortDigest key := String.append_empty
  by_cases least : ∀ other ∈ keys, key ≤ other
  · rw [publishedName_of_least least]
    -- the key has the bare name, and keeps it unless the new one is smaller
    by_cases below : added < key
    · rw [if_pos ⟨rfl, below⟩, publishedName_of_not_least List.mem_cons_self below,
        collisions_of_distinct digests member', suffix]
    · rw [if_neg fun both => below both.2]
      refine publishedName_of_least fun other wanted => ?_
      rcases List.mem_cons.mp wanted with rfl | wanted
      · exact String.not_lt.mp below
      · exact least other wanted
  · simp only [not_forall] at least
    obtain ⟨other, wanted, notAbove⟩ := least
    have below := String.not_le.mp notAbove
    -- the key has lost the bare name already
    have name : publishedName keys candidate key = renamed candidate key ++ counter 0 := by
      rw [publishedName_of_not_least wanted below, collisions_of_distinct (List.nodup_cons.mp digests).2 member]
    have notBare : renamed candidate key ++ counter 0 ≠ candidate := fun same =>
      plain (same ▸ underscore_mem_renamed candidate key 0)
    rw [name, if_neg fun both => notBare both.1, publishedName_of_not_least (List.mem_cons_of_mem _ wanted) below,
      collisions_of_distinct digests member']

/-- The smallest of some keys aside, every key before a key that has its digest counts. -/
theorem collisions_cons {owner key : String} {others : List String} (ascending : Ascending id (owner :: others)) :
    collisions (owner :: others) key =
      others.countP fun other => decide (other < key) && shortDigest other == shortDigest key := by
  have above := (List.pairwise_cons.mp ascending).1
  have atOwner : ((owner :: others).any fun least => decide (least < owner)) = false := by
    refine List.any_eq_false.mpr fun least member => ?_
    rw [decide_eq_true_eq]
    rcases List.mem_cons.mp member with rfl | member
    · exact String.lt_irrefl _
    · exact String.not_lt.mpr (le_of_lt (above least member))
  unfold collisions
  rw [List.countP_cons, atOwner, Bool.and_false, Bool.false_and, if_neg Bool.false_ne_true, Nat.add_zero]
  refine List.countP_congr fun other member => ?_
  have notLeast : ((owner :: others).any fun least => decide (least < other)) = true :=
    List.any_eq_true.mpr ⟨owner, List.mem_cons_self, decide_eq_true (above other member)⟩
  rw [notLeast, Bool.and_true]

theorem collisions_of_split {owner key : String} {earlier later : List String}
    (ascending : Ascending id (owner :: (earlier ++ key :: later))) :
    collisions (owner :: (earlier ++ key :: later)) key =
      earlier.countP fun other => shortDigest other == shortDigest key := by
  rw [collisions_cons ascending]
  exact countP_below_of_split (List.pairwise_cons.mp ascending).2 _

namespace Claims

variable {claims : Claims} (plain : ∀ entry ∈ claims.entries, '_' ∉ entry.2.toList)

include plain

theorem plain_of_mem_candidates {candidate : String} (h : candidate ∈ claims.candidates) :
    '_' ∉ candidate.toList := by
  obtain ⟨key, member⟩ := mem_candidates.mp h
  exact plain _ member

/-- A renamed key never meets a bare candidate. -/
theorem takenBelow_candidates : TakenBelow (fun _ => 0) claims.candidates := by
  intro candidate key n _
  refine ⟨fun member => ?_, fun below => absurd below (Nat.not_lt_zero n)⟩
  exact absurd (underscore_mem_renamed candidate key n) (plain_of_mem_candidates plain member)

omit plain in
/-- Among keys that do not get their candidates, only those of the same candidate have a base name in common. -/
theorem countP_base_outvoted {before after : List String} {candidate key : String}
    (split : claims.candidates = before ++ candidate :: after) :
    (before.flatMap claims.outvoted).countP
      (fun entry => renamed entry.1 entry.2 == renamed candidate key) = 0 := by
  have ascending := claims.ascending_candidates
  rw [split] at ascending
  have below := (List.pairwise_append.mp ascending).2.2
  refine List.countP_eq_zero.mpr fun entry lost same => ?_
  have member := claims.mem_of_mem_flatMap_outvoted lost
  obtain ⟨candidates, -⟩ := renamed_eq_iff.mp (eq_of_beq same)
  exact String.ne_of_lt (below _ member _ List.mem_cons_self) candidates

theorem mem_names_of_outvoted {candidate key : String} {earlier later : List String}
    (h : candidate ∈ claims.candidates) (split : (claims.claimants candidate).tail = earlier ++ key :: later) :
    (key, renamed candidate key ++ counter (earlier.countP fun other => shortDigest other == shortDigest key)) ∈
      claims.assign.names := by
  obtain ⟨before, after, candidates⟩ := List.append_of_mem h
  have isPlain := plain_of_mem_candidates plain h
  -- whoever has its turn before the key: all who lose an earlier candidate, and some who lose the same one
  let mid := before.flatMap claims.outvoted ++ earlier.map (candidate, ·)
  have losing : claims.losing =
      mid ++ (candidate, key) :: (later.map (candidate, ·) ++ after.flatMap claims.outvoted) := by
    rw [Claims.losing, candidates, List.flatMap_append, List.flatMap_cons, outvoted, split]
    simp only [mid, List.map_append, List.map_cons, List.append_assoc, List.cons_append]
  have plainMid : ∀ entry ∈ mid, '_' ∉ entry.1.toList := by
    intro entry member
    have lost : entry ∈ claims.losing := losing ▸ List.mem_append_left _ member
    exact plain_of_mem_candidates plain (claims.mem_of_mem_flatMap_outvoted lost)
  have given : (key, renamed candidate key ++ counter (0 +
      mid.countP fun entry => renamed entry.1 entry.2 == renamed candidate key)) ∈
      renamings claims.candidates claims.losing :=
    losing ▸ mem_renamings (takenBelow_candidates plain) plainMid isPlain
  have count : (mid.countP fun entry => renamed entry.1 entry.2 == renamed candidate key) =
      earlier.countP fun other => shortDigest other == shortDigest key := by
    rw [List.countP_append, countP_base_outvoted candidates, Nat.zero_add, List.countP_map]
    refine List.countP_congr fun other _ => ?_
    simp [renamed_eq_iff]
  rw [count, Nat.zero_add] at given
  exact claims.names_assign_perm.mem_iff.mpr (List.mem_append_right _ given)

/-- The name of a key, read off the keys that claim the same candidate. -/
theorem lookup_resolve_eq {key candidate : String} (h : (key, candidate) ∈ claims.entries) :
    claims.resolve.lookup key = some (publishedName (claims.claimants candidate) candidate key) := by
  rw [lookup_resolve_iff]
  have claimed := mem_claimants.mpr h
  have isCandidate := mem_candidates.mpr ⟨key, h⟩
  have ascending := claims.ascending_claimants candidate
  cases hc : claims.claimants candidate with
  | nil => rw [hc] at claimed; cases claimed
  | cons owner others =>
    rw [hc] at claimed ascending
    have above := (List.pairwise_cons.mp ascending).1
    rcases List.mem_cons.mp claimed with rfl | lost
    · have least : ∀ other ∈ key :: others, key ≤ other := by
        intro other member
        rcases List.mem_cons.mp member with rfl | member
        · exact String.le_refl _
        · exact le_of_lt (above other member)
      rw [publishedName_of_least least]
      refine claims.names_assign_perm.mem_iff.mpr (List.mem_append_left _ ?_)
      exact List.mem_flatMap.mpr ⟨candidate, isCandidate, claims.mem_owned.mpr ⟨by rw [hc]; rfl, rfl⟩⟩
    · obtain ⟨earlier, later, rfl⟩ := List.append_of_mem lost
      have below : owner < key := above key lost
      rw [publishedName_of_not_least List.mem_cons_self below, collisions_of_split ascending]
      exact mem_names_of_outvoted plain isCandidate (by rw [hc]; rfl)

end Claims

end SwaggerSdk.Naming
