import Mathlib.Data.List.Induction
import Mathlib.Data.List.Nodup
import SwaggerSdk.Proofs.Ascending

/-!
# Tables of distinct keys

Entries of distinct keys make the table of just these entries, in their order. Of a key that comes more than once the
last value counts, where the key came first (`get?_ofList`, `keys_ofList`).
-/

namespace SwaggerSdk.Table

variable {κ α : Type}

theorem eq_of_entries {table table' : Table κ α} (same : table.entries = table'.entries) : table = table' := by
  cases table
  cases table'
  cases same
  rfl

theorem present_entries (table : Table κ (Option α)) :
    table.present.entries = table.entries.filterMap fun entry => entry.2.map (entry.1, ·) := rfl

variable [DecidableEq κ]

theorem insertEntry_of_notMem {key : κ} {entries : List (κ × α)} (fresh : key ∉ entries.map (·.1)) (value : α) :
    insertEntry key value entries = entries ++ [(key, value)] := by
  induction entries with
  | nil => rfl
  | cons entry entries ih =>
    rw [List.map_cons, List.mem_cons, not_or] at fresh
    rw [insertEntry, if_neg (Ne.symm fresh.1), ih fresh.2, List.cons_append]

theorem insertEntry_of_lookup {key : κ} {value : α} {entries : List (κ × α)}
    (held : entries.lookup key = some value) : insertEntry key value entries = entries := by
  induction entries with
  | nil => cases held
  | cons entry entries ih =>
    rw [lookup_cons_eq] at held
    rw [insertEntry]
    split
    · next here =>
      rw [if_pos here.symm] at held
      rw [← here, ← Option.some.inj held]
    · next other => rw [ih (by rwa [if_neg (Ne.symm other)] at held)]

theorem insert_of_get? {table : Table κ α} {key : κ} {value : α} (held : table.get? key = some value) :
    table.insert key value = table :=
  eq_of_entries (insertEntry_of_lookup held)

theorem entries_foldl_insert (entries : List (κ × α)) (table : Table κ α)
    (distinct : ((table.entries ++ entries).map (·.1)).Nodup) :
    (entries.foldl (fun table entry => table.insert entry.1 entry.2) table).entries = table.entries ++ entries := by
  induction entries generalizing table with
  | nil => rw [List.foldl_nil, List.append_nil]
  | cons entry entries ih =>
    have fresh : entry.1 ∉ table.entries.map (·.1) := by
      rw [List.map_append, List.nodup_append] at distinct
      exact fun listed => distinct.2.2 _ listed _ List.mem_cons_self rfl
    have grown : (table.insert entry.1 entry.2).entries = table.entries ++ [entry] := insertEntry_of_notMem fresh _
    rw [List.foldl_cons, ih _ (by rwa [grown, List.append_assoc]), grown, List.append_assoc]
    rfl

theorem entries_ofList {entries : List (κ × α)} (distinct : (entries.map (·.1)).Nodup) :
    (ofList entries).entries = entries := entries_foldl_insert entries empty distinct

/-! ### Keys without a value -/

theorem mem_of_mem_insertEntry {key : κ} {value : α} {entries : List (κ × α)} {entry : κ × α}
    (member : entry ∈ insertEntry key value entries) : entry = (key, value) ∨ entry ∈ entries := by
  induction entries with
  | nil => exact Or.inl (List.mem_singleton.mp member)
  | cons first entries ih =>
    rw [insertEntry] at member
    split at member
    · exact (List.mem_cons.mp member).imp_right (List.mem_cons_of_mem _)
    · rcases List.mem_cons.mp member with rfl | later
      · exact Or.inr List.mem_cons_self
      · exact (ih later).imp_right (List.mem_cons_of_mem _)

theorem ofList_append_singleton (entries : List (κ × α)) (entry : κ × α) :
    ofList (entries ++ [entry]) = (ofList entries).insert entry.1 entry.2 := by
  rw [ofList, List.foldl_append]
  rfl

theorem mem_of_mem_ofList {entries : List (κ × α)} {entry : κ × α} (member : entry ∈ (ofList entries).entries) :
    entry ∈ entries := by
  induction entries using List.reverseRecOn with
  | nil => exact member
  | append_singleton entries last ih =>
    rw [ofList_append_singleton] at member
    rcases mem_of_mem_insertEntry member with rfl | earlier
    · exact List.mem_append_right _ List.mem_cons_self
    · exact List.mem_append_left _ (ih earlier)

/-- What stands under other keys does not depend on what is set under a key. -/
theorem filter_insertEntry (other key : κ) (value : α) (entries : List (κ × α)) :
    (insertEntry key value entries).filter (·.1 ≠ other) =
      if key = other then entries.filter (·.1 ≠ other) else insertEntry key value (entries.filter (·.1 ≠ other)) := by
  induction entries with
  | nil => by_cases same : key = other <;> simp [insertEntry, same]
  | cons entry entries ih =>
    by_cases here : entry.1 = key
    · by_cases same : key = other <;> simp [insertEntry, here, same]
    · by_cases there : entry.1 = other
      · by_cases same : key = other <;> simp_all [insertEntry]
      · by_cases same : key = other <;> simp_all [insertEntry]

theorem filter_ofList (other : κ) (entries : List (κ × α)) :
    (ofList entries).entries.filter (·.1 ≠ other) = (ofList (entries.filter (·.1 ≠ other))).entries := by
  induction entries using List.reverseRecOn with
  | nil => rfl
  | append_singleton entries last ih =>
    rw [ofList_append_singleton, List.filter_append]
    refine (filter_insertEntry other last.1 last.2 _).trans ?_
    by_cases same : last.1 = other
    · have dropped : [last].filter (·.1 ≠ other) = [] := List.filter_cons_of_neg (by simpa using same)
      rw [if_pos same, ih, dropped, List.append_nil]
    · have kept : [last].filter (·.1 ≠ other) = [last] := List.filter_cons_of_pos (by simpa using same)
      rw [if_neg same, ih, kept, ofList_append_singleton]
      rfl

/-- A key that never has a value leaves no entry behind. -/
theorem present_ofList_insert_none {before after : List (κ × Option α)} {key : κ}
    (valueless : ∀ entry ∈ before ++ after, entry.1 = key → entry.2 = none) :
    (ofList (before ++ (key, none) :: after)).present = (ofList (before ++ after)).present := by
  -- the entries that are present stand under other keys, and these see the same list
  have others : ∀ entries : List (κ × Option α), (∀ entry ∈ entries, entry.1 = key → entry.2 = none) →
      (ofList entries).present.entries =
        (ofList (entries.filter (·.1 ≠ key))).entries.filterMap fun entry => entry.2.map (entry.1, ·) := by
    intro entries valueless
    rw [present_entries, ← filter_ofList, List.filterMap_filter]
    refine List.filterMap_congr fun entry member => ?_
    by_cases here : entry.1 = key
    · simp [valueless entry (mem_of_mem_ofList member) here]
    · simp [here]
  refine eq_of_entries ?_
  rw [others _ valueless, others (before ++ (key, none) :: after)]
  · simp
  · intro entry member here
    rcases List.mem_append.mp member with earlier | later
    · exact valueless entry (List.mem_append_left _ earlier) here
    · rcases List.mem_cons.mp later with rfl | later
      · rfl
      · exact valueless entry (List.mem_append_right _ later) here

/-! ### What a table has from its entries -/

theorem mem_iff_get? {table : Table κ α} {key : κ} {value : α} :
    (key, value) ∈ table.entries ↔ table.get? key = some value :=
  (lookup_eq_some_iff table.distinct).symm

theorem eraseDups_append_singleton (keys : List κ) (key : κ) :
    (keys ++ [key]).eraseDups = if key ∈ keys then keys.eraseDups else keys.eraseDups ++ [key] := by
  rw [List.eraseDups_append]
  by_cases listed : key ∈ keys
  · simp [List.removeAll, listed]
  · simp [List.removeAll, listed, List.eraseDups_cons]

/-- The keys of a table are in the order in which they first came. -/
theorem keys_ofList (entries : List (κ × α)) : (ofList entries).keys = (entries.map (·.1)).eraseDups := by
  induction entries using List.reverseRecOn with
  | nil => rfl
  | append_singleton entries last ih =>
    have listed : last.1 ∈ (ofList entries).keys ↔ last.1 ∈ entries.map (·.1) := by rw [ih, List.mem_eraseDups]
    rw [ofList_append_singleton, List.map_append, List.map_singleton, eraseDups_append_singleton, ← ih]
    simp only [← listed]
    exact keys_insertEntry _ _ _

/-- The last entry of a key is the one that counts. -/
theorem get?_ofList (entries : List (κ × α)) (key : κ) : (ofList entries).get? key = entries.reverse.lookup key := by
  induction entries using List.reverseRecOn with
  | nil => rfl
  | append_singleton entries last ih =>
    rw [ofList_append_singleton, get?_insert, ih, List.reverse_append, List.reverse_singleton, List.singleton_append,
      lookup_cons_eq]

theorem get?_present_eq_some_iff {table : Table κ (Option α)} {key : κ} {value : α} :
    table.present.get? key = some value ↔ table.get? key = some (some value) := by
  rw [← mem_iff_get?, ← mem_iff_get?, present_entries]
  simp [List.mem_filterMap]

theorem mem_keys_iff {table : Table κ α} {key : κ} : key ∈ table.keys ↔ ∃ value, table.get? key = some value := by
  simp [← mem_iff_get?, keys]

theorem keys_present (table : Table κ (Option α)) :
    table.present.keys = table.keys.filter fun key => decide (key ∈ table.present.keys) := by
  have filtered (p : κ → Bool) (kept : ∀ entry ∈ table.entries, p entry.1 = entry.2.isSome) :
      table.present.keys = table.keys.filter p := by
    rw [keys, keys, present_entries, List.map_filterMap, List.filter_map, ← List.filterMap_eq_map, List.filterMap_filter]
    refine List.filterMap_congr fun entry listed => ?_
    rw [Function.comp_apply, kept entry listed]
    cases entry.2 <;> rfl
  refine filtered _ ?_
  rintro ⟨key, value?⟩ listed
  rw [Bool.eq_iff_iff, decide_eq_true_eq, mem_keys_iff]
  simp only [get?_present_eq_some_iff, mem_iff_get?.mp listed, Option.some_inj, Option.isSome_iff_exists]

end SwaggerSdk.Table
