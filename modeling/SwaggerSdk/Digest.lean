/-!
# A short digest of a text

The 32-bit digest that multiplies after each exclusive or (offset 0x811c9dc5, multiplier 0x01000193),
over the UTF-8 form of the text, written as eight hexadecimal digits. `length_shortDigest` says that there
are always eight.
-/

namespace SwaggerSdk.Digest

/-- One step: the octet is mixed in, then the state is multiplied modulo 2^32. -/
def step (state : UInt32) (octet : UInt8) : UInt32 := (state ^^^ octet.toUInt32) * 0x01000193

def ofOctets (octets : List UInt8) : UInt32 := octets.foldl step 0x811c9dc5

def hexDigits (word : UInt32) : List Char :=
  [7, 6, 5, 4, 3, 2, 1, 0].map fun place => Nat.digitChar (word.toNat / Nat.pow 16 place % 16)

def octets (text : String) : List UInt8 := text.toUTF8.data.toList

end SwaggerSdk.Digest

namespace SwaggerSdk

def shortDigest (text : String) : String :=
  String.ofList (Digest.hexDigits (Digest.ofOctets (Digest.octets text)))

theorem length_shortDigest (text : String) : (shortDigest text).toList.length = 8 := by
  simp [shortDigest, Digest.hexDigits]

theorem exists_digitChar_of_mem_shortDigest {text : String} {c : Char} (h : c ∈ (shortDigest text).toList) :
    ∃ n < 16, Nat.digitChar n = c := by
  rw [shortDigest, String.toList_ofList, Digest.hexDigits] at h
  obtain ⟨place, -, rfl⟩ := List.mem_map.mp h
  exact ⟨_, Nat.mod_lt _ (by decide), rfl⟩

end SwaggerSdk
