/-!
# Tables

Values by key, in the order in which the keys were first seen. Each key occurs once, and a later value
replaces an earlier one at its place. `get?_insert` says what a look-up finds after an insertion.
-/

namespace SwaggerSdk

structure Table (κ α : Type) where
  entries : List (κ × α)
  distinct : (entries.map (·.1)).Nodup

namespace Table

variable {κ α β : Type}

def empty : Table κ α := ⟨[], List.nodup_nil⟩

instance : Inhabited (Table κ α) := ⟨empty⟩

instance [DecidableEq κ] [DecidableEq α] : DecidableEq (Table κ α) := fun a b =>
  decidable_of_iff (a.entries = b.entries) ⟨fun h => by cases a; cases b; simp_all, fun h => h ▸ rfl⟩

instance [Repr κ] [Repr α] : Repr (Table κ α) := ⟨fun table => reprPrec table.entries⟩

def keys (table : Table κ α) : List κ := table.entries.map (·.1)

def size (table : Table κ α) : Nat := table.entries.length

def isEmpty (table : Table κ α) : Bool := table.entries.isEmpty

def filterMap (f : α → Option β) (table : Table κ α) : Table κ β where
  entries := table.entries.filterMap fun entry => (f entry.2).map (entry.1, ·)
  distinct := by
    suffices List.Sublist _ (table.entries.map (·.1)) from this.nodup table.distinct
    induction table.entries with
    | nil => exact List.nil_sublist _
    | cons entry entries ih =>
      rw [List.filterMap_cons]
      cases h : f entry.2 with
      | none => exact List.Sublist.cons _ ih
      | some value => exact List.Sublist.cons_cons _ ih

def present (table : Table κ (Option α)) : Table κ α := table.filterMap id

section Keyed

variable [DecidableEq κ]

def get? (table : Table κ α) (key : κ) : Option α := table.entries.lookup key

def insertEntry (key : κ) (value : α) : List (κ × α) → List (κ × α)
  | [] => [(key, value)]
  | entry :: entries =>
    if entry.1 = key then (key, value) :: entries else entry :: insertEntry key value entries

theorem keys_insertEntry (key : κ) (value : α) (entries : List (κ × α)) :
    (insertEntry key value entries).map (·.1) =
      if key ∈ entries.map (·.1) then entries.map (·.1) else entries.map (·.1) ++ [key] := by
  induction entries with
  | nil => simp [insertEntry]
  | cons entry entries ih =>
    rw [insertEntry]
    split
    case isTrue same => simp [same]
    case isFalse other =>
      have other' : ¬ key = entry.1 := fun h => other h.symm
      simp only [List.map_cons, ih, List.mem_cons, other', false_or]
      split <;> rfl

theorem nodup_insertEntry {key : κ} {value : α} {entries : List (κ × α)}
    (distinct : (entries.map (·.1)).Nodup) :
    ((insertEntry key value entries).map (·.1)).Nodup := by
  rw [keys_insertEntry]
  split
  case isTrue => exact distinct
  case isFalse fresh =>
    refine List.nodup_append.2 ⟨distinct, by simp, fun a ha b hb => ?_⟩
    rw [List.mem_singleton.1 hb]
    exact fun h => fresh (h ▸ ha)

def insert (table : Table κ α) (key : κ) (value : α) : Table κ α :=
  ⟨insertEntry key value table.entries, nodup_insertEntry table.distinct⟩

def ofList (entries : List (κ × α)) : Table κ α :=
  entries.foldl (fun table entry => table.insert entry.1 entry.2) empty

theorem lookup_cons_eq (entry : κ × α) (entries : List (κ × α)) (key : κ) :
    (entry :: entries).lookup key = if key = entry.1 then some entry.2 else entries.lookup key := by
  obtain ⟨first, value⟩ := entry
  by_cases h : key = first
  · simp [h]
  · simp [List.lookup_cons, beq_eq_false_iff_ne.2 h, h]

theorem lookup_insertEntry (key other : κ) (value : α) (entries : List (κ × α)) :
    (insertEntry key value entries).lookup other =
      if other = key then some value else entries.lookup other := by
  induction entries with
  | nil => rw [insertEntry, lookup_cons_eq]
  | cons entry entries ih =>
    rw [insertEntry]
    split
    case isTrue same => rw [lookup_cons_eq, lookup_cons_eq, same]; split <;> rfl
    case isFalse fresh =>
      rw [lookup_cons_eq, lookup_cons_eq, ih]
      by_cases here : other = entry.1
      · have : ¬ other = key := fun h => fresh (here ▸ h)
        simp [here]; exact fun h => absurd h fresh
      · simp [here]

theorem get?_insert (table : Table κ α) (key other : κ) (value : α) :
    (table.insert key value).get? other = if other = key then some value else table.get? other :=
  lookup_insertEntry key other value table.entries

end Keyed

end Table

end SwaggerSdk
