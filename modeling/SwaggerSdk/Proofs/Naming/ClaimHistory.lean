import SwaggerSdk.Proofs.Naming.Resolution

/-!
# What a history of claims leads to

Claims are made one after the other, and a key may claim again. `resolve_history` gives the names that any history leads
to, turn by turn: the least key of a candidate gets it bare, and each other one gets the first spelling of its base name
that is free when its turn comes. `resolve_eq_of_lastClaim?` says that nothing but the last claim of each key counts.
-/

namespace SwaggerSdk.Naming

/-! ### Ascending lists cut at a member -/

theorem mem_tail_of_ascending {keys : List String} (ascending : Ascending id keys) {key : String} :
    key ∈ keys.tail ↔ key ∈ keys ∧ ∃ other ∈ keys, other < key := by
  cases keys with
  | nil => simp
  | cons least keys =>
    have above := (List.pairwise_cons.mp ascending).1
    rw [List.tail_cons]
    constructor
    · intro member
      exact ⟨List.mem_cons_of_mem _ member, least, List.mem_cons_self, above key member⟩
    · rintro ⟨member, other, otherMember, below⟩
      rcases List.mem_cons.mp member with rfl | member
      · rcases List.mem_cons.mp otherMember with rfl | otherMember
        · exact absurd below (String.lt_irrefl _)
        · exact absurd (String.lt_trans below (above other otherMember)) (String.lt_irrefl _)
      · exact member

theorem mem_before_iff {α : Type} [LinearOrder α] {before after : List α} {entry other : α}
    (ascending : (before ++ entry :: after).Pairwise (· < ·)) (listed : other ∈ before ++ entry :: after) :
    other ∈ before ↔ other < entry := by
  obtain ⟨-, rest, below⟩ := List.pairwise_append.mp ascending
  have above := (List.pairwise_cons.mp rest).1
  refine ⟨fun member => below other member entry List.mem_cons_self, fun less => ?_⟩
  rcases List.mem_append.mp listed with member | member
  · exact member
  · rcases List.mem_cons.mp member with rfl | member
    · exact absurd less (lt_irrefl _)
    · exact absurd (less.trans (above other member)) (lt_irrefl _)

/-! ### Last claims -/

variable {history history' : List (String × String)}

/-- The candidate that a key has claimed last. -/
def lastClaim? (history : List (String × String)) (key : String) : Option String := history.reverse.lookup key

theorem isSome_lastClaim? {key : String} : (lastClaim? history key).isSome ↔ key ∈ history.map (·.1) := by
  rw [← Claims.mem_keys_ofList, Option.isSome_iff_exists]
  simp only [List.mem_map, Prod.exists, exists_and_right, exists_eq_right, Claims.mem_ofList, lastClaim?]

theorem lastClaim?_eq_none {key : String} (unclaimed : key ∉ history.map (·.1)) : lastClaim? history key = none := by
  rw [← isSome_lastClaim?] at unclaimed
  exact Option.not_isSome_iff_eq_none.mp unclaimed

theorem lastClaim?_append (earlier later : List (String × String)) (key : String) :
    lastClaim? (earlier ++ later) key = (lastClaim? later key).or (lastClaim? earlier key) := by
  rw [lastClaim?, List.reverse_append, List.lookup_append]
  rfl

theorem lastClaim?_perm (distinct : (history.map (·.1)).Nodup) (perm : history.Perm history') (key : String) :
    lastClaim? history key = lastClaim? history' key := by
  refine lookup_perm ?_ ((List.reverse_perm history).trans (perm.trans (List.reverse_perm history').symm))
  rwa [List.map_reverse, List.nodup_reverse]

namespace Claims

def candidate? (claims : Claims) (key : String) : Option String := claims.entries.lookup key

theorem candidate?_eq_some_iff {claims : Claims} {key candidate : String} :
    claims.candidate? key = some candidate ↔ (key, candidate) ∈ claims.entries :=
  lookup_eq_some_iff claims.nodup_keys

theorem candidate?_ofList (history : List (String × String)) : (ofList history).candidate? = lastClaim? history := by
  funext key
  ext candidate
  rw [candidate?_eq_some_iff, mem_ofList, lastClaim?]

theorem ofList_congr (same : ∀ key, lastClaim? history key = lastClaim? history' key) :
    ofList history = ofList history' := by
  have entries : (ofList history).entries = (ofList history').entries := by
    refine ascending_ext (ofList history).ascending (ofList history').ascending fun ⟨key, candidate⟩ => ?_
    rw [← candidate?_eq_some_iff, ← candidate?_eq_some_iff, candidate?_ofList, candidate?_ofList, same]
  generalize ofList history = claims at entries ⊢
  obtain ⟨_, _⟩ := claims
  cases entries
  rfl

end Claims

/-! ### What the names have to be -/

/-- A name that nothing claims and that has not been given yet when a key that wants a candidate has its turn. Turns go
by candidate and then by key. -/
structure IsFree (claim? : String → Option String) (names : List (String × String)) (candidate key name : String) :
    Prop where
  unclaimed : ∀ other, claim? other ≠ some name
  ungiven : ∀ candidate' key', claim? key' = some candidate' → toLex (candidate', key') < toLex (candidate, key) →
    names.lookup key' ≠ some name

/-- The names to which claims lead. -/
structure IsResolution (claim? : String → Option String) (names : List (String × String)) : Prop where
  ascending : Ascending Prod.fst names
  keys : ∀ key, key ∈ names.map (·.1) ↔ (claim? key).isSome
  distinct : (names.map (·.2)).Nodup
  bare : ∀ key candidate, claim? key = some candidate → (∀ other, claim? other = some candidate → key ≤ other) →
    names.lookup key = some candidate
  /-- The counter stops at the first spelling that is free; fewer are tried before it than there are keys. -/
  counted : ∀ key other candidate, claim? key = some candidate → claim? other = some candidate → other < key →
    ∃ n < names.length, names.lookup key = some (candidate ++ "__" ++ shortDigest key ++ counter n) ∧
      IsFree claim? names candidate key (candidate ++ "__" ++ shortDigest key ++ counter n) ∧
      ∀ m < n, ¬ IsFree claim? names candidate key (candidate ++ "__" ++ shortDigest key ++ counter m)

namespace Claims

variable (claims : Claims)

/-! ### Turns -/

theorem mem_losing {candidate key : String} :
    (candidate, key) ∈ claims.losing ↔
      (key, candidate) ∈ claims.entries ∧ ∃ other, (other, candidate) ∈ claims.entries ∧ other < key := by
  have turn : (candidate, key) ∈ claims.losing ↔
      candidate ∈ claims.candidates ∧ key ∈ (claims.claimants candidate).tail := by
    simp only [losing, List.mem_flatMap, outvoted, List.mem_map, Prod.mk.injEq]
    constructor
    · rintro ⟨_, member, _, lost, rfl, rfl⟩
      exact ⟨member, lost⟩
    · rintro ⟨member, lost⟩
      exact ⟨candidate, member, key, lost, rfl, rfl⟩
  rw [turn, mem_tail_of_ascending (claims.ascending_claimants candidate)]
  simp only [mem_claimants, mem_candidates]
  exact and_iff_right_of_imp fun both => ⟨key, both.1⟩

theorem pairwise_losing : (claims.losing.map toLex).Pairwise (· < ·) := by
  refine List.pairwise_map.mpr (List.pairwise_flatMap.mpr ⟨fun candidate _ => List.pairwise_map.mpr ?_, ?_⟩)
  · refine ((claims.ascending_claimants candidate).sublist (List.tail_sublist _)).imp fun {key key'} below => ?_
    exact Prod.Lex.toLex_lt_toLex.mpr (.inr ⟨rfl, below⟩)
  · refine claims.ascending_candidates.imp fun {candidate candidate'} below entry lost entry' lost' => ?_
    obtain ⟨key, -, rfl⟩ := List.mem_map.mp lost
    obtain ⟨key', -, rfl⟩ := List.mem_map.mp lost'
    exact Prod.Lex.toLex_lt_toLex.mpr (.inl below)

theorem mem_earlier_iff {earlier later : List (String × String)} {candidate key candidate' key' : String}
    (turns : claims.losing = earlier ++ (candidate, key) :: later) (lost : (candidate', key') ∈ claims.losing) :
    (candidate', key') ∈ earlier ↔ toLex (candidate', key') < toLex (candidate, key) := by
  have ascending := claims.pairwise_losing
  have listed := List.mem_map_of_mem (f := toLex) lost
  rw [turns, List.map_append, List.map_cons] at ascending listed
  rw [← mem_before_iff ascending listed, List.mem_map_of_injective toLex.injective]

/-! ### The names that are given -/

theorem lookup_resolve_of_least {key candidate : String} (claimed : (key, candidate) ∈ claims.entries)
    (least : ∀ other, (other, candidate) ∈ claims.entries → key ≤ other) :
    claims.resolve.lookup key = some candidate := by
  have member := mem_claimants.mpr claimed
  have ascending := claims.ascending_claimants candidate
  have owner : (claims.claimants candidate).head? = some key := by
    cases keys : claims.claimants candidate with
    | nil =>
      rw [keys] at member
      cases member
    | cons first others =>
      rw [keys] at member ascending
      rcases List.mem_cons.mp member with rfl | later
      · rfl
      · have below := (List.pairwise_cons.mp ascending).1 key later
        have above := least first (mem_claimants.mp (keys ▸ List.mem_cons_self))
        exact absurd below (String.not_lt.mpr above)
  have owned := List.mem_flatMap.mpr ⟨candidate, mem_candidates.mpr ⟨key, claimed⟩, claims.mem_owned.mpr ⟨owner, rfl⟩⟩
  exact claims.lookup_resolve_iff.mpr (claims.names_assign_perm.mem_iff.mpr (List.mem_append_left _ owned))

theorem lookup_resolve_of_renamings {key name : String}
    (given : (key, name) ∈ renamings claims.candidates claims.losing) : claims.resolve.lookup key = some name :=
  claims.lookup_resolve_iff.mpr (claims.names_assign_perm.mem_iff.mpr (List.mem_append_right _ given))

/-- What is not taken when a key has its turn, in terms of the names that all keys have in the end. -/
theorem isFree_iff {earlier later : List (String × String)} {candidate key name : String}
    (turns : claims.losing = earlier ++ (candidate, key) :: later) :
    IsFree claims.candidate? claims.resolve candidate key name ↔
      name ∉ ((renamings claims.candidates earlier).map (·.2)).reverse ++ claims.candidates := by
  have given {key' name' : String} (member : (key', name') ∈ renamings claims.candidates earlier) :
      claims.resolve.lookup key' = some name' := by
    refine claims.lookup_resolve_of_renamings ?_
    rw [turns, renamings_append]
    exact List.mem_append_left _ member
  have keys := keys_renamings claims.candidates earlier
  rw [List.mem_append, List.mem_reverse, not_or]
  constructor
  · rintro ⟨unclaimed, ungiven⟩
    refine ⟨fun taken => ?_, fun taken => ?_⟩
    · obtain ⟨⟨key', _⟩, member, rfl⟩ := List.mem_map.mp taken
      have listed : key' ∈ earlier.map (·.2) := keys ▸ List.mem_map_of_mem (f := Prod.fst) member
      obtain ⟨⟨candidate', _⟩, before, rfl⟩ := List.mem_map.mp listed
      have lost := turns ▸ List.mem_append_left ((candidate, key) :: later) before
      have claimed := candidate?_eq_some_iff.mpr (claims.mem_losing.mp lost).1
      exact ungiven candidate' _ claimed ((claims.mem_earlier_iff turns lost).mp before) (given member)
    · obtain ⟨other, claimed⟩ := mem_candidates.mp taken
      exact unclaimed other (candidate?_eq_some_iff.mpr claimed)
  · rintro ⟨fresh, notCandidate⟩
    have unclaimed (other : String) (claimed : (other, name) ∈ claims.entries) : False :=
      notCandidate (mem_candidates.mpr ⟨other, claimed⟩)
    refine ⟨fun other claimed => unclaimed other (candidate?_eq_some_iff.mp claimed), ?_⟩
    intro candidate' key' found before named
    have claimed := candidate?_eq_some_iff.mp found
    by_cases lost : (candidate', key') ∈ claims.losing
    · have listed := List.mem_map_of_mem (f := Prod.snd) ((claims.mem_earlier_iff turns lost).mpr before)
      rw [← keys] at listed
      obtain ⟨⟨_, name'⟩, member, rfl⟩ := List.mem_map.mp listed
      rw [given member, Option.some_inj] at named
      exact fresh (named ▸ List.mem_map_of_mem (f := Prod.snd) member)
    · -- a key that has no turn has its candidate, and that is not free
      have least : ∀ other, (other, candidate') ∈ claims.entries → key' ≤ other := fun other also =>
        String.not_lt.mp fun below => lost (claims.mem_losing.mpr ⟨claimed, other, also, below⟩)
      rw [claims.lookup_resolve_of_least claimed least, Option.some_inj] at named
      exact unclaimed key' (named ▸ claimed)

/-- A key that has its turn gets the first spelling of its base name that is free then. -/
theorem exists_lookup_resolve_of_losing {candidate key : String} (lost : (candidate, key) ∈ claims.losing) :
    ∃ n, claims.resolve.lookup key = some (renamed candidate key ++ counter n) ∧
      IsFree claims.candidate? claims.resolve candidate key (renamed candidate key ++ counter n) ∧
      ∀ m < n, ¬ IsFree claims.candidate? claims.resolve candidate key (renamed candidate key ++ counter m) := by
  obtain ⟨earlier, later, turns⟩ := List.append_of_mem lost
  obtain ⟨n, chosen, fresh, below⟩ := exists_freeSpelling
    (((renamings claims.candidates earlier).map (·.2)).reverse ++ claims.candidates) (renamed candidate key)
  refine ⟨n, claims.lookup_resolve_of_renamings ?_, (claims.isFree_iff turns).mpr fresh, fun m less isFree => ?_⟩
  · rw [turns, renamings_append, renamings, chosen]
    exact List.mem_append_right _ List.mem_cons_self
  · exact (claims.isFree_iff turns).mp isFree (below m less)

theorem resolve_perm_assign : claims.resolve.Perm claims.assign.names := List.mergeSort_perm _ _

theorem nodup_names_resolve : (claims.resolve.map (·.2)).Nodup :=
  (claims.resolve_perm_assign.map _).nodup_iff.mpr claims.nodup_names_assign

theorem mem_names_of_lookup {key name : String} (found : claims.resolve.lookup key = some name) :
    name ∈ claims.resolve.map (·.2) :=
  List.mem_map.mpr ⟨_, mem_of_lookup found, rfl⟩

theorem mem_names_of_not_isFree {candidate key name : String}
    (taken : ¬ IsFree claims.candidate? claims.resolve candidate key name) : name ∈ claims.resolve.map (·.2) := by
  by_contra fresh
  refine taken ⟨fun other claimed => fresh ?_, fun _ _ _ _ named => fresh (claims.mem_names_of_lookup named)⟩
  have candidate := mem_candidates.mpr ⟨other, candidate?_eq_some_iff.mp claimed⟩
  rw [(claims.resolve_perm_assign.map _).mem_iff, (claims.names_assign_perm.map _).mem_iff, List.map_append,
    claims.names_owned]
  exact List.mem_append_left _ candidate

theorem isResolution : IsResolution claims.candidate? claims.resolve where
  ascending := ascending_mergeSort claims.nodup_keys_assign
  keys key := by
    rw [(claims.resolve_perm_assign.map _).mem_iff, mem_keys_assign, Option.isSome_iff_exists]
    simp only [List.mem_map, Prod.exists, exists_and_right, exists_eq_right, candidate?_eq_some_iff]
  distinct := claims.nodup_names_resolve
  bare key candidate claimed least :=
    claims.lookup_resolve_of_least (candidate?_eq_some_iff.mp claimed) fun other also =>
      least other (candidate?_eq_some_iff.mpr also)
  counted key other candidate claimed also below := by
    rw [candidate?_eq_some_iff] at claimed also
    obtain ⟨n, named, free, first⟩ :=
      claims.exists_lookup_resolve_of_losing (claims.mem_losing.mpr ⟨claimed, other, also, below⟩)
    refine ⟨n, ?_, named, free, first⟩
    -- the spellings up to the chosen one are names of different keys
    have spellings : (List.range (n + 1)).map (renamed candidate key ++ counter ·) ⊆ claims.resolve.map (·.2) := by
      intro spelled listed
      obtain ⟨m, within, rfl⟩ := List.mem_map.mp listed
      rcases Nat.lt_succ_iff_lt_or_eq.mp (List.mem_range.mp within) with less | rfl
      · exact claims.mem_names_of_not_isFree (first m less)
      · exact claims.mem_names_of_lookup named
    have different : ((List.range (n + 1)).map (renamed candidate key ++ counter ·)).Nodup :=
      List.nodup_range.map fun _ _ => spelling_inj
    simpa using different.length_le_of_subset spellings

end Claims

/-- Any history of claims leads to names for its keys, which are given turn by turn. -/
theorem resolve_history (history : List (String × String)) :
    IsResolution (lastClaim? history) (Claims.ofList history).resolve ∧
      ∀ key, key ∈ (Claims.ofList history).resolve.map (·.1) ↔ key ∈ history.map (·.1) := by
  have resolution := (Claims.ofList history).isResolution
  rw [Claims.candidate?_ofList] at resolution
  exact ⟨resolution, fun key => (resolution.keys key).trans isSome_lastClaim?⟩

/-- A key claims the very name that another one would get instead of the candidate that it loses. -/
def pushingHistory : List (String × String) :=
  [("GET /c", "list__bc97dea4"), ("GET /b", "item"), ("GET /b", "list"), ("GET /a", "list")]

theorem resolve_history_pushing :
    (Claims.ofList pushingHistory).resolve.lookup "GET /b" = some "list__bc97dea4_2" ∧
    IsFree (lastClaim? pushingHistory) (Claims.ofList pushingHistory).resolve "list" "GET /b" "list__bc97dea4_2" ∧
    ¬ IsFree (lastClaim? pushingHistory) (Claims.ofList pushingHistory).resolve "list" "GET /b" "list__bc97dea4" := by
  have found : (Claims.ofList pushingHistory).resolve.lookup "GET /b" = some "list__bc97dea4_2" :=
    (Claims.lookup_resolve_iff _).mpr (by decide)
  have resolution := (resolve_history pushingHistory).1
  obtain ⟨n, -, named, free, first⟩ := resolution.counted "GET /b" "GET /a" "list" (by decide) (by decide) (by decide)
  have base : "list" ++ "__" ++ shortDigest "GET /b" = "list__bc97dea4" := by decide
  rw [base] at named free first
  have spelled : "list__bc97dea4" ++ counter 1 = "list__bc97dea4" ++ counter n := Option.some.inj (found.symm.trans named)
  obtain rfl := spelling_inj spelled
  exact ⟨found, free, first 0 Nat.zero_lt_one⟩

/-- Nothing but the last claim of each key counts: neither the order of claims by different keys nor claims that are
replaced later. -/
theorem resolve_eq_of_lastClaim? :
    (∀ history history' : List (String × String), (∀ key, key ∈ history.map (·.1) ↔ key ∈ history'.map (·.1)) →
      (∀ key ∈ history.map (·.1), lastClaim? history key = lastClaim? history' key) →
        (Claims.ofList history).resolve = (Claims.ofList history').resolve) ∧
    (∀ history history' : List (String × String), (history.map (·.1)).Nodup → history.Perm history' →
      (Claims.ofList history).resolve = (Claims.ofList history').resolve) ∧
    ∀ (earlier later : List (String × String)) (key candidate : String), key ∈ later.map (·.1) →
      (Claims.ofList (earlier ++ (key, candidate) :: later)).resolve = (Claims.ofList (earlier ++ later)).resolve := by
  have resolve_congr {history history' : List (String × String)}
      (same : ∀ key, lastClaim? history key = lastClaim? history' key) :
      (Claims.ofList history).resolve = (Claims.ofList history').resolve := by rw [Claims.ofList_congr same]
  refine ⟨fun history history' keys last => resolve_congr fun key => ?_, fun history history' distinct perm =>
    resolve_congr (lastClaim?_perm distinct perm), fun earlier later key candidate again => resolve_congr fun other => ?_⟩
  · by_cases claims : key ∈ history.map (·.1)
    · exact last key claims
    · rw [lastClaim?_eq_none claims, lastClaim?_eq_none fun member => claims ((keys key).mpr member)]
  · rw [lastClaim?_append, lastClaim?_append, ← List.singleton_append, lastClaim?_append]
    by_cases here : other ∈ later.map (·.1)
    · obtain ⟨last, claimed⟩ := Option.isSome_iff_exists.mp (isSome_lastClaim?.mpr here)
      rw [claimed, Option.some_or, Option.some_or]
    · have elsewhere : other ∉ [(key, candidate)].map (·.1) := by
        rintro member
        exact here (List.mem_singleton.mp member ▸ again)
      rw [lastClaim?_eq_none elsewhere, Option.or_none]

/-- In the first history a key comes to want what another one has claimed before it. -/
theorem resolve_eq_of_lastClaim?_moved :
    (∀ key, key ∈ [("GET /b", "list"), ("GET /a", "item"), ("GET /a", "list")].map Prod.fst ↔
      key ∈ [("GET /a", "list"), ("GET /b", "list")].map Prod.fst) ∧
    (Claims.ofList [("GET /b", "list"), ("GET /a", "item"), ("GET /a", "list")]).resolve =
      (Claims.ofList [("GET /a", "list"), ("GET /b", "list")]).resolve ∧
    (Claims.ofList [("GET /a", "list"), ("GET /b", "list")]).resolve.lookup "GET /b" = some "list__bc97dea4" := by
  have keys (key : String) : key ∈ [("GET /b", "list"), ("GET /a", "item"), ("GET /a", "list")].map Prod.fst ↔
      key ∈ [("GET /a", "list"), ("GET /b", "list")].map Prod.fst := by
    simp only [List.map_cons, List.map_nil, List.mem_cons, List.not_mem_nil, or_false]
    tauto
  refine ⟨keys, resolve_eq_of_lastClaim?.1 _ _ keys (by decide), ?_⟩
  exact (Claims.lookup_resolve_iff _).mpr (by decide)

end SwaggerSdk.Naming
