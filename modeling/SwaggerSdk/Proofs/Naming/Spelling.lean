import Mathlib
import SwaggerSdk.Naming.Claims
import SwaggerSdk.Naming.Identifier

/-!
# Spellings of names that would collide

A key that loses its candidate is given the candidate with the digest of the key behind a double
underscore, and behind that a counter if need be. `exists_freeSpelling` says which spelling is chosen.
`renamed_inj` says that the candidate, the digest and the counter can be read off the spelling, whatever
the candidate is.
-/

namespace SwaggerSdk.Naming

/-- What is put behind a base name for the `n`-th time that it is wanted again: nothing at first, then 2, 3, … -/
def counter (n : Nat) : String := if n = 0 then "" else "_" ++ toString (n + 1)

/-- The base name of a key that does not get its candidate. -/
def renamed (candidate key : String) : String := candidate ++ "__" ++ shortDigest key

/-! ### Counters -/

theorem toString_nat_inj {m n : Nat} (h : toString m = toString n) : m = n := by
  rw [Nat.toString_eq_ofList_toDigits, Nat.toString_eq_ofList_toDigits] at h
  have digits : Nat.toDigits 10 m = Nat.toDigits 10 n := String.ofList_injective h
  rw [← @Nat.ofDigitChars_ten_toDigits m, digits, Nat.ofDigitChars_ten_toDigits]

theorem counter_inj {m n : Nat} (h : counter m = counter n) : m = n := by
  have nonempty : ∀ k : Nat, "_" ++ toString k ≠ "" := by
    intro k empty
    have chars := congrArg String.toList empty
    simp at chars
  unfold counter at h
  split at h <;> split at h
  · omega
  · exact absurd h.symm (nonempty _)
  · exact absurd h (nonempty _)
  · have := toString_nat_inj ((String.append_right_inj "_").mp h)
    omega

theorem spelling_inj {base : String} {m n : Nat} (h : base ++ counter m = base ++ counter n) : m = n :=
  counter_inj ((String.append_right_inj base).mp h)

theorem spellings_eq_map (base : String) (count : Nat) :
    spellings base count = (List.range (count + 1)).map fun n => base ++ counter n := by
  rw [List.range_succ_eq_map, List.map_cons, List.map_map, spellings]
  congr 1
  · simp [counter]
  · refine List.map_congr_left fun n _ => ?_
    simp [counter, String.append_assoc]

/-! ### The spelling that is chosen -/

/-- The counter stops at the first spelling that is not taken. -/
theorem exists_freeSpelling (taken : List String) (base : String) :
    ∃ n, freeSpelling taken base = base ++ counter n ∧ base ++ counter n ∉ taken ∧
      ∀ m < n, base ++ counter m ∈ taken := by
  unfold freeSpelling
  cases found : (spellings base taken.length).find? fun name => !taken.contains name with
  | none =>
    -- there are more spellings than names that are taken, so not all of them can be
    have all : spellings base taken.length ⊆ taken := by
      intro name member
      simpa using List.find?_eq_none.mp found name member
    have distinct : (spellings base taken.length).Nodup := by
      rw [spellings_eq_map]
      exact List.nodup_range.map fun m n => spelling_inj
    have length := distinct.length_le_of_subset all
    simp [spellings] at length
  | some name =>
    rw [spellings_eq_map, List.find?_map, Option.map_eq_some_iff] at found
    obtain ⟨n, first, rfl⟩ := found
    obtain ⟨free, -, below⟩ := List.find?_range_eq_some.mp first
    exact ⟨n, rfl, by simpa using free, fun m less => by simpa using below m less⟩

theorem freeSpelling_notMem (taken : List String) (base : String) : freeSpelling taken base ∉ taken := by
  obtain ⟨n, chosen, free, -⟩ := exists_freeSpelling taken base
  rw [chosen]
  exact free

theorem freeSpelling_eq {taken : List String} {base : String} {n : Nat}
    (isTaken : ∀ m, base ++ counter m ∈ taken ↔ m < n) : freeSpelling taken base = base ++ counter n := by
  obtain ⟨k, chosen, free, below⟩ := exists_freeSpelling taken base
  have notAfter : ¬ k < n := fun less => free ((isTaken k).mpr less)
  have notBefore : ¬ n < k := fun less => absurd ((isTaken n).mp (below n less)) (Nat.lt_irrefl n)
  rw [chosen, show k = n by omega]

/-- Of the taken names only the spellings of the base name itself count. -/
theorem freeSpelling_congr {taken taken' : List String} {base : String}
    (same : ∀ n, base ++ counter n ∈ taken ↔ base ++ counter n ∈ taken') :
    freeSpelling taken base = freeSpelling taken' base := by
  obtain ⟨n, chosen, free, below⟩ := exists_freeSpelling taken base
  obtain ⟨n', chosen', free', below'⟩ := exists_freeSpelling taken' base
  have notAfter : ¬ n' < n := fun less => free' ((same n').mp (below n' less))
  have notBefore : ¬ n < n' := fun less => free ((same n).mpr (below' n less))
  rw [chosen, chosen', show n = n' by omega]

/-! ### The characters of a spelling -/

theorem isAlphanum_digitChar : ∀ n < 16, (Nat.digitChar n).isAlphanum = true := by decide

theorem isAlphanum_of_mem_shortDigest {key : String} {c : Char} (h : c ∈ (shortDigest key).toList) :
    c.isAlphanum = true := by
  obtain ⟨n, small, rfl⟩ := exists_digitChar_of_mem_shortDigest h
  exact isAlphanum_digitChar n small

theorem isWordChar_of_mem_shortDigest {key : String} {c : Char} (h : c ∈ (shortDigest key).toList) :
    Text.isWordChar c = true := by
  simp [Text.isWordChar, isAlphanum_of_mem_shortDigest h]

theorem isWordChar_of_mem_counter {n : Nat} {c : Char} (h : c ∈ (counter n).toList) :
    Text.isWordChar c = true := by
  unfold counter at h
  split at h
  · simp at h
  · rw [String.toList_append, List.mem_append] at h
    rcases h with h | h
    · obtain rfl : c = '_' := by simpa using h
      decide
    · rw [Nat.toString_eq_ofList_toDigits, String.toList_ofList] at h
      have digit := Nat.isDigit_of_mem_toDigits (by decide) (by decide) h
      simp [Text.isWordChar, Char.isAlphanum, digit]

theorem underscore_notMem_shortDigest (key : String) : '_' ∉ (shortDigest key).toList := fun inside =>
  absurd (isAlphanum_of_mem_shortDigest inside) (by decide)

/-! ### Reading a spelling -/

theorem append_cons_inj {α : Type} {c : α} {s s' t t' : List α} (plain : c ∉ s) (plain' : c ∉ s')
    (h : s ++ c :: t = s' ++ c :: t') : s = s' ∧ t = t' := by
  induction s generalizing s' with
  | nil =>
    cases s' with
    | nil => exact ⟨rfl, (List.cons.inj h).2⟩
    | cons d s' => exact absurd ((List.cons.inj h).1 ▸ List.mem_cons_self) plain'
  | cons d s ih =>
    cases s' with
    | nil => exact absurd ((List.cons.inj h).1 ▸ List.mem_cons_self) plain
    | cons d' s' =>
      obtain ⟨rfl, rest⟩ := List.cons.inj h
      obtain ⟨rfl, rfl⟩ := ih (fun member => plain (List.mem_cons_of_mem _ member))
        (fun member => plain' (List.mem_cons_of_mem _ member)) rest
      exact ⟨rfl, rfl⟩

theorem reverse_renamed (candidate key : String) :
    (renamed candidate key).toList.reverse =
      (shortDigest key).toList.reverse ++ '_' :: '_' :: candidate.toList.reverse := by
  simp [renamed]

theorem reverse_counted (base : String) (n : Nat) :
    (base ++ counter (n + 1)).toList.reverse = (toString (n + 2)).toList.reverse ++ '_' :: base.toList.reverse := by
  simp [counter]

/-- Behind the last underscore of a spelling stands its counter, or else the digest. A second underscore before that
one tells that it is the digest. -/
theorem renamed_ne_counted (candidate candidate' key key' : String) (n : Nat) :
    renamed candidate key ≠ renamed candidate' key' ++ counter (n + 1) := by
  intro h
  have read := congrArg (·.toList.reverse) h
  simp only [reverse_counted, reverse_renamed] at read
  obtain ⟨-, before⟩ := append_cons_inj (by simpa using underscore_notMem_shortDigest key) (by simp) read
  cases digits : (shortDigest key').toList.reverse with
  | nil =>
    have length := length_shortDigest key'
    rw [← List.length_reverse, digits] at length
    cases length
  | cons last digits' =>
    rw [digits] at before
    obtain rfl := (List.cons.inj before).1
    exact underscore_notMem_shortDigest key' (List.mem_reverse.mp (digits ▸ List.mem_cons_self))

theorem renamed_inj {candidate candidate' key key' : String} {n n' : Nat}
    (h : renamed candidate key ++ counter n = renamed candidate' key' ++ counter n') :
    candidate = candidate' ∧ shortDigest key = shortDigest key' ∧ n = n' := by
  have counters : n = n' := by
    match n, n' with
    | 0, 0 => rfl
    | 0, n' + 1 => exact absurd (String.append_empty.symm.trans h) (renamed_ne_counted _ _ _ _ n')
    | n + 1, 0 => exact absurd (String.append_empty.symm.trans h.symm) (renamed_ne_counted _ _ _ _ n)
    | n + 1, n' + 1 =>
      have read := congrArg (·.toList.reverse) h
      simp only [reverse_counted] at read
      obtain ⟨digits, -⟩ := append_cons_inj (by simp) (by simp) read
      have same := toString_nat_inj (String.toList_inj.mp (List.reverse_injective digits))
      omega
  -- digests are of one length, so the candidates end at the same place
  subst counters
  have chars := congrArg String.toList ((String.append_left_inj _).mp h)
  simp only [renamed, String.toList_append] at chars
  have lengths : (shortDigest key).toList.length = (shortDigest key').toList.length := by
    rw [length_shortDigest, length_shortDigest]
  obtain ⟨marked, digest⟩ := List.append_inj' chars lengths
  exact ⟨String.toList_inj.mp (List.append_cancel_right marked), String.toList_inj.mp digest, rfl⟩

theorem underscore_mem_renamed (candidate key : String) (n : Nat) :
    '_' ∈ (renamed candidate key ++ counter n).toList := by
  simp [renamed]

end SwaggerSdk.Naming
