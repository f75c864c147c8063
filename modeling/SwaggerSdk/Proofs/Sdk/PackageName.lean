import SwaggerSdk.Proofs.Naming.KeptIds
import SwaggerSdk.Proofs.Text.Cutting
import SwaggerSdk.Sdk.PackageName

/-!
# Package names are lawful

A package name is made of words with single dashes between them, and the words of lower-case letters and digits of
ASCII. `packageName_eq_self_iff` says that such names are kept as they are, and no others. So every display name leads
to a lawful package name, and that leads to itself (`packageName_lawful`).
-/

namespace SwaggerSdk.Sdk

def isNameChar (c : Char) : Bool := c.isLower || c.isDigit

structure IsNameWord (word : List Char) : Prop where
  nonempty : word ≠ []
  letters : ∀ c ∈ word, isNameChar c = true

/-- Words with single dashes between them: `[a-z0-9]+(-[a-z0-9]+)*`. -/
inductive IsPackageName : List Char → Prop where
  | word {word : List Char} : IsNameWord word → IsPackageName word
  | dash {word rest : List Char} : IsNameWord word → IsPackageName rest → IsPackageName (word ++ '-' :: rest)

/-! ### The characters of a package name -/

section Letters

variable {c : Char}

theorem isNameChar_of_isAlphanum (letter : c.isAlphanum = true) (small : c.isUpper = false) : isNameChar c = true := by
  simpa [isNameChar, Char.isAlphanum, Char.isAlpha, small] using letter

theorem isUpper_asciiLower (c : Char) : (asciiLower c).isUpper = false := by
  unfold asciiLower
  split
  · rfl
  · split
    · rfl
    · exact Char.isUpper_toLower_eq_false c

variable (letter : isNameChar c = true)

include letter

theorem isAlphanum_of_isNameChar : c.isAlphanum = true := by
  simp only [isNameChar, Bool.or_eq_true] at letter
  rcases letter with lower | digit
  · simp [Char.isAlphanum, Char.isAlpha, lower]
  · simp [Char.isAlphanum, digit]

theorem isUpper_of_isNameChar : c.isUpper = false := by
  simp only [isNameChar, Bool.or_eq_true, Naming.isLower_iff, Naming.isDigit_iff] at letter
  rw [Bool.eq_false_iff, ne_eq, Naming.isUpper_iff]
  omega

theorem ne_dash_of_isNameChar : c ≠ '-' := by
  rintro rfl
  cases letter

theorem toNat_of_isNameChar : c.toNat < 0x80 :=
  (Naming.toNat_of_isAlphanum (isAlphanum_of_isNameChar letter)).2

theorem isAlphanumeric_of_isNameChar : Text.isAlphanumeric c = true :=
  (if_pos (toNat_of_isNameChar letter)).trans (isAlphanum_of_isNameChar letter)

theorem isUppercase_of_isNameChar : Text.isUppercase c = false :=
  (Naming.isUppercase_of_isAlphanum (isAlphanum_of_isNameChar letter)).trans (isUpper_of_isNameChar letter)

theorem asciiLower_of_isNameChar : asciiLower c = c := by
  have ascii := toNat_of_isNameChar letter
  have notKelvin : (c == '\u212a') = false := beq_false_of_ne fun same => absurd ascii (same ▸ by decide)
  have notDotted : (c == '\u0130') = false := beq_false_of_ne fun same => absurd ascii (same ▸ by decide)
  rw [asciiLower, notKelvin, notDotted]
  exact (Naming.toLower_eq_self_iff c).mpr (isUpper_of_isNameChar letter)

end Letters

/-! ### The form of a package name -/

theorem IsNameWord.isChain {word : List Char} (lawful : IsNameWord word) :
    word.IsChain fun c d => ¬(c = '-' ∧ d = '-') := by
  refine List.Pairwise.isChain (List.pairwise_of_forall_mem_list fun c inside d _ both => ?_)
  exact ne_dash_of_isNameChar (lawful.letters c inside) both.1

theorem isPackageName_intercalate {words : List (List Char)} (nonempty : words ≠ [])
    (lawful : ∀ word ∈ words, IsNameWord word) : IsPackageName (['-'].intercalate words) := by
  induction words with
  | nil => exact absurd rfl nonempty
  | cons word words ih =>
    obtain ⟨first, others⟩ := List.forall_mem_cons.mp lawful
    cases words with
    | nil =>
      rw [List.intercalate_singleton]
      exact .word first
    | cons next words =>
      rw [List.intercalate_cons_cons, List.append_assoc, List.singleton_append]
      exact .dash first (ih (List.cons_ne_nil next words) others)

namespace IsPackageName

variable {s : List Char} (lawful : IsPackageName s)

include lawful

theorem exists_words : ∃ words ≠ [], (∀ word ∈ words, IsNameWord word) ∧ ['-'].intercalate words = s := by
  induction lawful with
  | @word word lawful =>
    exact ⟨[word], List.cons_ne_nil _ _, List.forall_mem_singleton.mpr lawful, List.intercalate_singleton⟩
  | @dash word rest first _ ih =>
    obtain ⟨words, nonempty, others, rfl⟩ := ih
    obtain ⟨next, words, rfl⟩ := List.exists_cons_of_ne_nil nonempty
    refine ⟨word :: next :: words, List.cons_ne_nil _ _, List.forall_mem_cons.mpr ⟨first, others⟩, ?_⟩
    rw [List.intercalate_cons_cons, List.append_assoc, List.singleton_append]

theorem letters : ∀ c ∈ s, isNameChar c = true ∨ c = '-' := by
  induction lawful with
  | word lawful => exact fun c inside => .inl (lawful.letters c inside)
  | dash first _ ih =>
    intro c inside
    rcases List.mem_append.mp inside with inside | inside
    · exact .inl (first.letters c inside)
    · exact (List.mem_cons.mp inside).elim .inr (ih c)

theorem ends : ∃ first ∈ s.head?, ∃ last ∈ s.getLast?, isNameChar first = true ∧ isNameChar last = true := by
  induction lawful with
  | @word word lawful =>
    obtain ⟨first, rest, rfl⟩ := List.exists_cons_of_ne_nil lawful.nonempty
    have last := List.getLast_mem lawful.nonempty
    exact ⟨first, rfl, _, List.getLast?_eq_getLast_of_ne_nil lawful.nonempty, lawful.letters _ List.mem_cons_self,
      lawful.letters _ last⟩
  | @dash word rest lawful _ ih =>
    obtain ⟨first, letters, rfl⟩ := List.exists_cons_of_ne_nil lawful.nonempty
    obtain ⟨_, -, last, ending, -, letter⟩ := ih
    refine ⟨first, rfl, last, ?_, lawful.letters _ List.mem_cons_self, letter⟩
    rw [List.getLast?_append_cons, List.getLast?_cons, Option.mem_def.mp ending]
    rfl

theorem isChain : s.IsChain fun c d => ¬(c = '-' ∧ d = '-') := by
  induction lawful with
  | word lawful => exact lawful.isChain
  | dash first others ih =>
    -- what comes behind the dash starts with a letter or a digit, and what comes before it ends so
    obtain ⟨head, starting, -, -, letter, -⟩ := others.ends
    refine List.isChain_append.mpr ⟨first.isChain, List.isChain_cons.mpr ⟨fun d begins both => ?_, ih⟩, ?_⟩
    · obtain rfl := Option.mem_unique begins starting
      exact ne_dash_of_isNameChar letter both.2
    · intro c ending _ _ both
      exact ne_dash_of_isNameChar (first.letters c (List.mem_of_mem_getLast? ending)) both.1

end IsPackageName

/-! ### Reading a package name -/

theorem isNameWord_of_mem_packageWords {s word : List Char} (listed : word ∈ packageWords s) : IsNameWord word := by
  obtain ⟨cut, nonempty⟩ := List.mem_filter.mp listed
  refine ⟨by simpa using nonempty, fun c inside => ?_⟩
  obtain ⟨kept, notDash⟩ := Text.mem_of_mem_split cut inside
  obtain ⟨written, allowed⟩ := List.mem_filter.mp kept
  have letter : c.isAlphanum = true := by
    rw [isPackageChar, notDash, Bool.or_false] at allowed
    exact allowed
  -- what is no dash was written by lower-casing, which leaves no capital of ASCII
  rcases Text.mem_or_exists_of_mem_intercalate written with dash | ⟨lowered, ofName, member⟩
  · rw [List.mem_singleton.mp dash] at notDash
    cases notDash
  · obtain ⟨original, -, rfl⟩ := List.mem_map.mp ofName
    obtain ⟨d, -, rfl⟩ := List.mem_map.mp member
    exact isNameChar_of_isAlphanum letter (isUpper_asciiLower d)

theorem isPackageName_packageName (name : String) : IsPackageName (packageName name).toList := by
  unfold packageName
  cases listed : packageWords name.toList with
  | nil => exact .word ⟨List.cons_ne_nil _ _, List.all_eq_true.mp rfl⟩
  | cons word words =>
    have lawful : IsPackageName (['-'].intercalate (word :: words)) :=
      isPackageName_intercalate (List.cons_ne_nil word words) fun other member =>
        isNameWord_of_mem_packageWords (listed ▸ member)
    simpa using lawful

theorem caseWords_of_notUppercase (casing : Casing) {s : List Char} (nonempty : s ≠ [])
    (small : ∀ c ∈ s, Text.isUppercase c = false) : caseWords casing s = [s] := by
  induction s generalizing casing with
  | nil => exact absurd rfl nonempty
  | cons c s ih =>
    cases s with
    | nil => rfl
    | cons next s =>
      obtain ⟨here, others⟩ := List.forall_mem_cons.mp small
      -- both cuts wait for a capital, whatever was read before
      have nextSmall := others next List.mem_cons_self
      rw [caseWords, nextSmall, here, Bool.and_false, Bool.and_false, Bool.false_and, if_neg Bool.false_ne_true,
        if_neg Bool.false_ne_true, ih _ (List.cons_ne_nil next s) others]
      rfl

section Words

variable {words : List (List Char)} (nonempty : words ≠ []) (lawful : ∀ word ∈ words, IsNameWord word)

include nonempty lawful

theorem nameWords_intercalate : nameWords (['-'].intercalate words) = words := by
  have stretches : Text.split (!Text.isAlphanumeric ·) (['-'].intercalate words) = words :=
    Text.split_intercalate rfl nonempty fun word listed c inside => by
      rw [isAlphanumeric_of_isNameChar ((lawful word listed).letters c inside), Bool.not_true]
  have whole : ∀ word ∈ words, caseWords .fresh word = [word] := fun word listed =>
    caseWords_of_notUppercase .fresh (lawful word listed).nonempty fun c inside =>
      isUppercase_of_isNameChar ((lawful word listed).letters c inside)
  rw [nameWords, stretches, List.flatMap_congr whole]
  simp

theorem kebab_intercalate : kebab (['-'].intercalate words) = ['-'].intercalate words := by
  have kept : ∀ word ∈ words, word.map asciiLower = word := fun word listed =>
    (List.map_congr_left fun c inside => asciiLower_of_isNameChar ((lawful word listed).letters c inside)).trans
      (List.map_id word)
  rw [kebab, nameWords_intercalate nonempty lawful, List.map_congr_left kept, List.map_id']

theorem packageWords_intercalate : packageWords (['-'].intercalate words) = words := by
  have allowed : ∀ c ∈ ['-'].intercalate words, isPackageChar c = true := by
    intro c inside
    rcases (isPackageName_intercalate nonempty lawful).letters c inside with letter | rfl
    · rw [isPackageChar, isAlphanum_of_isNameChar letter, Bool.true_or]
    · rfl
  have apart : Text.split (· == '-') (['-'].intercalate words) = words :=
    Text.split_intercalate rfl nonempty fun word listed c inside =>
      beq_false_of_ne (ne_dash_of_isNameChar ((lawful word listed).letters c inside))
  rw [packageWords, kebab_intercalate nonempty lawful, List.filter_eq_self.mpr allowed, apart]
  exact List.filter_eq_self.mpr fun word listed => by simpa using (lawful word listed).nonempty

end Words

/-- Which names are kept as they are. -/
theorem packageName_eq_self_iff (name : String) : packageName name = name ↔ IsPackageName name.toList := by
  constructor
  · intro same
    exact same ▸ isPackageName_packageName name
  · intro lawful
    obtain ⟨words, nonempty, lawfulWords, spelled⟩ := lawful.exists_words
    have read : packageWords name.toList = words := by rw [← spelled, packageWords_intercalate nonempty lawfulWords]
    rw [packageName, read, spelled, String.ofList_toList]
    exact if_neg (by simpa using nonempty)

/-- Whatever a display name is made of, its package name is lawful: not empty, without capitals, and with dashes neither
at an end nor beside each other. A package name is its own package name. -/
theorem packageName_lawful (name : String) :
    IsPackageName (packageName name).toList ∧
    packageName name ≠ "" ∧
    (∀ c ∈ (packageName name).toList, c.isUpper = false) ∧
    (packageName name).toList.head? ≠ some '-' ∧
    (packageName name).toList.getLast? ≠ some '-' ∧
    ((packageName name).toList.IsChain fun c d => ¬(c = '-' ∧ d = '-')) ∧
    packageName (packageName name) = packageName name := by
  have lawful := isPackageName_packageName name
  obtain ⟨first, starting, last, ending, firstLetter, lastLetter⟩ := lawful.ends
  refine ⟨lawful, ?_, fun c inside => ?_, ?_, ?_, lawful.isChain, (packageName_eq_self_iff _).mpr lawful⟩
  · intro empty
    rw [empty] at starting
    cases starting
  · rcases lawful.letters c inside with letter | rfl
    · exact isUpper_of_isNameChar letter
    · rfl
  · rw [Option.mem_def.mp starting]
    exact fun same => ne_dash_of_isNameChar firstLetter (Option.some.inj same)
  · rw [Option.mem_def.mp ending]
    exact fun same => ne_dash_of_isNameChar lastLetter (Option.some.inj same)

example : packageName "日本 API" = "api" := by decide +kernel

end SwaggerSdk.Sdk
