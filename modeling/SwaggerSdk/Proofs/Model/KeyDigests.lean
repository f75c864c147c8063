import SwaggerSdk.Proofs.Model.Names
import SwaggerSdk.Text.Characters

/-!
# Digests of keys that differ in one octet

The state of the digest is changed octet by octet, and every change can be undone: the state before it can be read off
if the octet is known, and the octet if the state is. So two texts that differ in one octet have different digests,
however long they go on behind it. Where operations want the same name, a counter is never due to two keys that differ
in one octet (`shortDigest_apart`).
-/

namespace SwaggerSdk

namespace Digest

/-! ### The run over the octets -/

variable {state state' : UInt32} {octet octet' : UInt8}

theorem mul_multiplier_inj (h : state * 0x01000193 = state' * 0x01000193) : state = state' := by
  -- the multiplier is odd, so it has an inverse modulo 2^32
  have unit : (0x01000193 : UInt32) * 0x359c449b = 1 := by decide
  have undone := congrArg (· * 0x359c449b) h
  simpa only [UInt32.mul_assoc, unit, UInt32.mul_one] using undone

theorem step_inj_state (h : step state octet = step state' octet) : state = state' :=
  (UInt32.xor_left_inj octet.toUInt32).mp (mul_multiplier_inj h)

theorem step_inj_octet (h : step state octet = step state octet') : octet = octet' :=
  UInt8.toUInt32_inj.mp ((UInt32.xor_right_inj state).mp (mul_multiplier_inj h))

theorem foldl_step_inj {octets : List UInt8} (h : octets.foldl step state = octets.foldl step state') :
    state = state' := by
  induction octets generalizing state state' with
  | nil => exact h
  | cons octet octets ih => exact step_inj_state (ih h)

theorem ofOctets_inj_octet {before after : List UInt8}
    (h : ofOctets (before ++ octet :: after) = ofOctets (before ++ octet' :: after)) : octet = octet' := by
  simp only [ofOctets, List.foldl_append, List.foldl_cons] at h
  exact step_inj_octet (foldl_step_inj h)

/-! ### The digits -/

theorem hexDigit?_digitChar : ∀ n < 16, Text.hexDigit? (Nat.digitChar n) = some n := by decide

/-- The digits write the whole word, zeros in front included. -/
theorem hexValue?_hexDigits (word : UInt32) : Text.hexValue? (hexDigits word) = some word.toNat := by
  have digit (n : Nat) : Text.hexDigit? (Nat.digitChar (n % 16)) = some (n % 16) :=
    hexDigit?_digitChar _ (Nat.mod_lt n (by decide))
  have bound := word.toNat_lt
  simp [hexDigits, Text.hexValue?, digit]
  omega

theorem hexDigits_inj {word word' : UInt32} (h : hexDigits word = hexDigits word') : word = word' := by
  have values := congrArg Text.hexValue? h
  rw [hexValue?_hexDigits, hexValue?_hexDigits] at values
  exact UInt32.toNat_inj.mp (Option.some.inj values)

end Digest

theorem shortDigest_eq_iff {text text' : String} : shortDigest text = shortDigest text' ↔
    Digest.ofOctets (Digest.octets text) = Digest.ofOctets (Digest.octets text') := by
  refine ⟨fun same => Digest.hexDigits_inj (String.ofList_injective same), fun same => ?_⟩
  rw [shortDigest, shortDigest, same]

/-! ### Texts that differ in one octet -/

/-- The UTF-8 forms of the texts have the same length and differ at one position. -/
def DifferInOneOctet (text text' : String) : Prop :=
  (Digest.octets text).length = (Digest.octets text').length ∧
    ((Digest.octets text).zip (Digest.octets text')).countP (fun pair => pair.1 != pair.2) = 1

instance (text text' : String) : Decidable (DifferInOneOctet text text') := inferInstanceAs (Decidable (_ ∧ _))

theorem eq_of_countP_zip_eq_zero {octets octets' : List UInt8} (lengths : octets.length = octets'.length)
    (none : (octets.zip octets').countP (fun pair => pair.1 != pair.2) = 0) : octets = octets' := by
  induction octets generalizing octets' with
  | nil => exact (List.length_eq_zero_iff.mp lengths.symm).symm
  | cons octet octets ih =>
    cases octets' with
    | nil => cases lengths
    | cons octet' octets' =>
      rw [List.zip_cons_cons, List.countP_cons, Nat.add_eq_zero_iff] at none
      have same : octet = octet' := by simpa using none.2
      rw [same, ih (Nat.succ.inj lengths) none.1]

theorem exists_split_of_countP_zip_eq_one {octets octets' : List UInt8} (lengths : octets.length = octets'.length)
    (one : (octets.zip octets').countP (fun pair => pair.1 != pair.2) = 1) :
    ∃ before octet octet' after, octet ≠ octet' ∧ octets = before ++ octet :: after ∧
      octets' = before ++ octet' :: after := by
  induction octets generalizing octets' with
  | nil => cases one
  | cons octet octets ih =>
    cases octets' with
    | nil => cases lengths
    | cons octet' octets' =>
      rw [List.zip_cons_cons, List.countP_cons] at one
      -- either the octets differ farther on, or here and nowhere behind
      by_cases same : octet = octet'
      · subst same
        obtain ⟨before, _, _, after, different, rfl, rfl⟩ := ih (Nat.succ.inj lengths) (by simpa using one)
        exact ⟨octet :: before, _, _, after, different, rfl, rfl⟩
      · have rest := eq_of_countP_zip_eq_zero (Nat.succ.inj lengths) (by simpa [same] using one)
        exact ⟨[], octet, octet', octets, same, rfl, by rw [rest, List.nil_append]⟩

theorem DifferInOneOctet.shortDigest_ne {text text' : String} (differ : DifferInOneOctet text text') :
    shortDigest text ≠ shortDigest text' := by
  obtain ⟨before, octet, octet', after, different, spelled, spelled'⟩ :=
    exists_split_of_countP_zip_eq_one differ.1 differ.2
  intro same
  rw [shortDigest_eq_iff, spelled, spelled'] at same
  exact different (Digest.ofOctets_inj_octet same)

/-! ### Names of keys that differ in one octet -/

namespace DifferInOneOctet

variable {key key' : String} (differ : DifferInOneOctet key key')

include differ

/-- What is tried for one of the keys is never tried for the other, whatever they claim. -/
theorem renamed_ne (candidate candidate' : String) (n n' : Nat) :
    Naming.renamed candidate key ++ Naming.counter n ≠ Naming.renamed candidate' key' ++ Naming.counter n' :=
  fun same => differ.shortDigest_ne (Naming.renamed_inj same).2.1

theorem freeSpelling_eq (before after : List String) (candidate candidate' : String) (n : Nat) :
    Naming.freeSpelling (before ++ (Naming.renamed candidate' key' ++ Naming.counter n) :: after)
        (Naming.renamed candidate key) =
      Naming.freeSpelling (before ++ after) (Naming.renamed candidate key) := by
  refine Naming.freeSpelling_congr fun m => ?_
  simp only [List.mem_append, List.mem_cons, differ.renamed_ne candidate candidate' m n, false_or]

end DifferInOneOctet

namespace Document

variable (document : Document)

theorem nameOf?_ne_renamed {slot : Slot} {key : String} (h : slot ∈ document.slots)
    (differ : DifferInOneOctet key slot.route.key) (candidate : String) (n : Nat) :
    (Model.ofDocument document).nameOf? slot.route ≠ some (Naming.renamed candidate key ++ Naming.counter n) := by
  rw [document.nameOf?_slot h]
  intro same
  have name : document.finalName slot = _ := Option.some.inj same
  unfold finalName Naming.publishedName at name
  split at name
  -- a bare name has no underscore, and any other has the digest of its own key
  · exact Naming.underscore_notMem_candidate _ _ (name ▸ Naming.underscore_mem_renamed candidate key n)
  · exact differ.renamed_ne _ _ _ _ name.symm

theorem exists_distant_of_counter {slot : Slot} {n : Nat} (h : slot ∈ document.slots)
    (counted : (Model.ofDocument document).nameOf? slot.route =
      some (slot.candidate ++ "__" ++ shortDigest slot.route.key ++ "_" ++ toString n)) :
    ∃ other ∈ document.slots, other.candidate = slot.candidate ∧ other.route.key < slot.route.key ∧
      shortDigest other.route.key = shortDigest slot.route.key ∧
      ¬DifferInOneOctet other.route.key slot.route.key := by
  have published : document.finalName slot = _ := Option.some.inj ((document.nameOf?_slot h).symm.trans counted)
  obtain ⟨key, wanted, below, digests⟩ :=
    Naming.exists_collision_of_counter (Naming.underscore_notMem_candidate _ _) published
  obtain ⟨other, member, wants, rfl⟩ := document.mem_keysWanting.mp wanted
  exact ⟨other, member, wants, below, digests, fun differ => differ.shortDigest_ne digests⟩

end Document

/-! ### What digests tell apart -/

/-- Texts that differ in one octet have different digests, and every digest has eight hexadecimal digits, with no
capitals among them. So neither of two keys that differ in one octet makes the other one take a counter: what is given
to the one is no spelling that is tried for the other, and whoever takes a counter does so for a key farther off. -/
theorem shortDigest_apart :
    (∀ text text' : String, DifferInOneOctet text text' → shortDigest text ≠ shortDigest text') ∧
    (∀ text : String, (shortDigest text).toList.length = 8 ∧
      ∀ c ∈ (shortDigest text).toList, c ∈ "0123456789abcdef".toList) ∧
    (∀ key key' : String, DifferInOneOctet key key' →
      ∀ (before after : List String) (candidate candidate' : String) (n : Nat),
        Naming.freeSpelling (before ++ (candidate' ++ "__" ++ shortDigest key' ++ Naming.counter n) :: after)
            (candidate ++ "__" ++ shortDigest key) =
          Naming.freeSpelling (before ++ after) (candidate ++ "__" ++ shortDigest key)) ∧
    ∀ (document : Document), ∀ slot ∈ document.slots,
      (∀ other ∈ document.slots, DifferInOneOctet other.route.key slot.route.key → ∀ n : Nat,
        (Model.ofDocument document).nameOf? slot.route ≠
          some (other.candidate ++ "__" ++ shortDigest other.route.key ++ Naming.counter n)) ∧
      ∀ n : Nat, (Model.ofDocument document).nameOf? slot.route =
          some (slot.candidate ++ "__" ++ shortDigest slot.route.key ++ "_" ++ toString n) →
        ∃ other ∈ document.slots, other.candidate = slot.candidate ∧ other.route.key < slot.route.key ∧
          shortDigest other.route.key = shortDigest slot.route.key ∧
          ¬DifferInOneOctet other.route.key slot.route.key := by
  have hex : ∀ n < 16, Nat.digitChar n ∈ "0123456789abcdef".toList := by decide
  refine ⟨fun text text' differ => differ.shortDigest_ne, fun text => ⟨length_shortDigest text, fun c inside => ?_⟩,
    fun key key' differ => differ.freeSpelling_eq, fun document slot member => ⟨fun other _ differ n => ?_, fun n => ?_⟩⟩
  · obtain ⟨digit, small, rfl⟩ := exists_digitChar_of_mem_shortDigest inside
    exact hex digit small
  · exact document.nameOf?_ne_renamed member differ other.candidate n
  · exact document.exists_distant_of_counter member

def Document.lookalike : Document :=
  { Document.blank with paths := ⟨[("/a-b", .unnamed), ("/a_b", .unnamed)], by decide⟩ }

/-- The second of the paths needs no counter. Where one is needed, the keys differ in more than one octet. -/
theorem shortDigest_apart_lookalike :
    shortDigest "GET /a-b" ≠ shortDigest "GET /a_b" ∧
    Naming.freeSpelling ["getAB", "getAB" ++ "__" ++ shortDigest "GET /a-b" ++ Naming.counter 0]
        ("getAB" ++ "__" ++ shortDigest "GET /a_b") =
      Naming.freeSpelling ["getAB"] ("getAB" ++ "__" ++ shortDigest "GET /a_b") ∧
    (∀ n : Nat, (Model.ofDocument .lookalike).nameOf? ⟨.get, "/a_b"⟩ ≠
      some ("getAB" ++ "__" ++ shortDigest "GET /a-b" ++ Naming.counter n)) ∧
    (Model.ofDocument .lookalike).nameOf? ⟨.get, "/a_b"⟩ = some "getAB__277f3f0c" ∧
    (Model.ofDocument .crowded).nameOf? ⟨.get, "/humora"⟩ = some "list__5dde792c_2" ∧
    ∃ other ∈ Document.crowded.slots, shortDigest other.route.key = "5dde792c" ∧
      ¬DifferInOneOctet other.route.key "GET /humora" := by
  obtain ⟨digests, -, spellings, names⟩ := shortDigest_apart
  have dash : (⟨⟨.get, "/a-b"⟩, .unnamed, .unnamed⟩ : Slot) ∈ Document.lookalike.slots :=
    Document.lookalike.mem_slots.mpr ⟨List.mem_cons_self, rfl⟩
  have underscore : (⟨⟨.get, "/a_b"⟩, .unnamed, .unnamed⟩ : Slot) ∈ Document.lookalike.slots :=
    Document.lookalike.mem_slots.mpr ⟨by simp [Document.lookalike], rfl⟩
  have humora : (⟨⟨.get, "/humora"⟩, .listing, .listing⟩ : Slot) ∈ Document.crowded.slots :=
    Document.crowded.mem_slots.mpr ⟨List.mem_cons_self, rfl⟩
  have wanted : Slot.candidate ⟨⟨.get, "/a-b"⟩, .unnamed, .unnamed⟩ = "getAB" := by decide +kernel
  have counted : (Model.ofDocument .crowded).nameOf? ⟨.get, "/humora"⟩ = some "list__5dde792c_2" :=
    (Document.crowded.nameOf?_slot humora).trans (by decide +kernel)
  have others := (names .lookalike _ underscore).1 _ dash (by decide)
  rw [wanted] at others
  obtain ⟨other, member, -, -, same, distant⟩ := (names .crowded _ humora).2 2 (counted.trans (by decide +kernel))
  exact ⟨digests _ _ (by decide), spellings _ _ (by decide) ["getAB"] [] "getAB" "getAB" 0, others,
    (Document.lookalike.nameOf?_slot underscore).trans (by decide +kernel), counted, other, member,
    same.trans (by decide), distant⟩

end SwaggerSdk
