import SwaggerSdk.Digest

/-!
# Claims on names

Every operation claims a candidate name under its key. Once all claims are known they are resolved: for
each candidate the smallest key keeps the bare name, every other one gets the candidate with the digest of
its key, and a counter where that is taken too. The claims are kept sorted by key, so the result depends
on the set of claims alone.
-/

namespace SwaggerSdk.Naming

/-- Candidates by key, the keys ascending. -/
structure Claims where
  entries : List (String × String)
  ascending : entries.Pairwise (·.1 < ·.1)

namespace Claims

def empty : Claims := ⟨[], List.Pairwise.nil⟩

def insertEntry (key candidate : String) : List (String × String) → List (String × String)
  | [] => [(key, candidate)]
  | entry :: entries =>
    if key < entry.1 then (key, candidate) :: entry :: entries
    else if entry.1 < key then entry :: insertEntry key candidate entries
    -- a later claim of the same key replaces the earlier one
    else (key, candidate) :: entries

theorem mem_insertEntry {key candidate : String} {entries : List (String × String)}
    {entry : String × String} (h : entry ∈ insertEntry key candidate entries) :
    entry = (key, candidate) ∨ entry ∈ entries := by
  induction entries with
  | nil => simpa [insertEntry] using h
  | cons first entries ih =>
    rw [insertEntry] at h
    split at h
    · simpa using h
    · split at h
      · rcases List.mem_cons.1 h with h | h
        · exact Or.inr (h ▸ List.mem_cons_self)
        · exact (ih h).imp_right (List.mem_cons_of_mem _)
      · exact (List.mem_cons.1 h).imp_right (List.mem_cons_of_mem _)

theorem ascending_insertEntry {key candidate : String} {entries : List (String × String)}
    (ascending : entries.Pairwise (·.1 < ·.1)) :
    (insertEntry key candidate entries).Pairwise (·.1 < ·.1) := by
  induction entries with
  | nil => simp [insertEntry]
  | cons first entries ih =>
    obtain ⟨above, rest⟩ := List.pairwise_cons.1 ascending
    rw [insertEntry]
    split
    case isTrue below =>
      refine List.pairwise_cons.2 ⟨fun entry h => ?_, ascending⟩
      rcases List.mem_cons.1 h with rfl | h
      · exact below
      · exact String.lt_trans below (above entry h)
    case isFalse notBelow =>
      split
      case isTrue after =>
        refine List.pairwise_cons.2 ⟨fun entry h => ?_, ih rest⟩
        rcases mem_insertEntry h with rfl | h
        · exact after
        · exact above entry h
      case isFalse notAfter =>
        have same : key = first.1 := String.le_antisymm (String.not_lt.1 notAfter) (String.not_lt.1 notBelow)
        exact List.pairwise_cons.2 ⟨fun entry h => same ▸ above entry h, rest⟩

def claim (claims : Claims) (key candidate : String) : Claims :=
  ⟨insertEntry key candidate claims.entries, ascending_insertEntry claims.ascending⟩

def ofList (list : List (String × String)) : Claims :=
  list.foldl (fun claims entry => claims.claim entry.1 entry.2) empty

def claimants (claims : Claims) (candidate : String) : List String :=
  (claims.entries.filter (·.2 == candidate)).map (·.1)

/-- The claimed candidates, ascending and each once. -/
def candidates (claims : Claims) : List String :=
  (ofList (claims.entries.map fun entry => (entry.2, ""))).entries.map (·.1)

end Claims

/-- The spellings that are tried for a base name: bare first, then with 2, 3, … behind it. -/
def spellings (base : String) (count : Nat) : List String :=
  base :: (List.range count).map fun n => base ++ "_" ++ toString (n + 2)

def freeSpelling (taken : List String) (base : String) : String :=
  -- one more spelling is tried than names are taken, so one of them is free
  ((spellings base taken.length).find? fun name => !taken.contains name).getD base

/-- The names given so far, and all names that may not be given again. -/
structure Assignment where
  taken : List String
  names : List (String × String)

namespace Assignment

def rename (candidate : String) (state : Assignment) (key : String) : Assignment :=
  let name := freeSpelling state.taken (candidate ++ "__" ++ shortDigest key)
  ⟨name :: state.taken, (key, name) :: state.names⟩

def assignGroup (claims : Claims) (state : Assignment) (candidate : String) : Assignment :=
  match claims.claimants candidate with
  | [] => state
  | owner :: others =>
    others.foldl (rename candidate) ⟨state.taken, (owner, candidate) :: state.names⟩

end Assignment

namespace Claims

def assign (claims : Claims) : Assignment :=
  -- all candidates are taken from the start, so no key that loses its own gets another one
  claims.candidates.foldl (Assignment.assignGroup claims) ⟨claims.candidates, []⟩

def resolve (claims : Claims) : List (String × String) :=
  claims.assign.names.mergeSort fun a b => decide (a.1 ≤ b.1)

def nameOf? (claims : Claims) (key : String) : Option String := claims.assign.names.lookup key

end Claims

end SwaggerSdk.Naming
