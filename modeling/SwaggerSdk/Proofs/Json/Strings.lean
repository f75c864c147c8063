import SwaggerSdk.Json.Error
import SwaggerSdk.Json.Reading

/-!
# Strings are read as they are written

A text is written as a string character by character, and each of its characters is read as one piece that
stands for it. So a string that has been written reads as the text that it was written for.
-/

namespace SwaggerSdk.Json

/-- Whether a control character is written by its code, since no letter escapes it. -/
def isCoded (c : Char) : Bool :=
  c < ' ' && !(c == '\x08' || c == '\x0c' || c == '\n' || c == '\r' || c == '\t')

def writtenPiece (c : Char) : Piece := if isCoded c then .unit c.toNat else .char c

def Lexeme.ofText (text : String) : Lexeme := ⟨text.toList.map writtenPiece, none⟩

/-! ### Reading -/

theorem hexValue?_hexPair : ∀ code < 32, Text.hexValue? ('0' :: '0' :: hexPair code) = some code := by
  decide

theorem toNat_lt_of_lt_space {c : Char} (control : c < ' ') : c.toNat < 32 := control

theorem readString_plain {c : Char} {rest : List Char} (noQuote : c ≠ '"') (noBackslash : c ≠ '\\')
    (visible : ¬ c < ' ') :
    readString (c :: rest) = ((readString rest).1.cons (.char c), (readString rest).2) := by
  rw [readString.eq_def]
  split
  case h_7 same =>
    cases same
    exact if_neg visible
  all_goals simp_all

theorem readString_escapeChar (c : Char) (rest : List Char) :
    readString (escapeChar c ++ rest) =
      ((readString rest).1.cons (writtenPiece c), (readString rest).2) := by
  unfold escapeChar
  split
  case h_8 noQuote noBackslash noBackspace noFeed noLine noReturn noTab =>
    split
    case isTrue control =>
      have coded : isCoded c = true := by
        unfold isCoded
        simp_all
      have code := hexValue?_hexPair c.toNat (toNat_lt_of_lt_space control)
      unfold hexPair at code
      rw [writtenPiece, if_pos coded, hexPair]
      simp only [List.cons_append, List.nil_append]
      rw [readString, code]
    case isFalse visible =>
      have plain : writtenPiece c = .char c := by simp [writtenPiece, isCoded, visible]
      rw [plain, List.singleton_append]
      exact readString_plain noQuote noBackslash visible
  all_goals rfl

theorem readString_quoted (s rest : List Char) :
    readString (s.flatMap escapeChar ++ '"' :: rest) = (⟨s.map writtenPiece, none⟩, rest) := by
  induction s with
  | nil => rfl
  | cons c s ih =>
    rw [List.flatMap_cons, List.append_assoc, readString_escapeChar, ih]
    rfl

/-! ### Decoding -/

theorem not_isTrailUnit_of_lt {code : Nat} (small : code < 32) : isTrailUnit code = false := by
  have : ¬ 0xdc00 ≤ code := by omega
  simp [isTrailUnit, this]

theorem not_isLeadUnit_of_lt {code : Nat} (small : code < 32) : isLeadUnit code = false := by
  have : ¬ 0xd800 ≤ code := by omega
  simp [isLeadUnit, this]

theorem decodePieces_unit {code : Nat} (small : code < 32) (pieces : List Piece) :
    decodePieces none (.unit code :: pieces) = (decodePieces none pieces).map (Char.ofNat code :: ·) := by
  have lead := not_isLeadUnit_of_lt small
  have trail := not_isTrailUnit_of_lt small
  rw [decodePieces.eq_def]
  split <;> simp_all

theorem decodePieces_written (c : Char) (pieces : List Piece) :
    decodePieces none (writtenPiece c :: pieces) = (decodePieces none pieces).map (c :: ·) := by
  unfold writtenPiece
  split
  case isTrue coded =>
    have control : c < ' ' := by
      rw [isCoded, Bool.and_eq_true, decide_eq_true_eq] at coded
      exact coded.1
    rw [decodePieces_unit (toNat_lt_of_lt_space control), Char.ofNat_toNat]
  case isFalse => rw [decodePieces]

theorem read_ofText (text : String) : (Lexeme.ofText text).read = .ok text := by
  have chars : decodePieces none (text.toList.map writtenPiece) = .ok text.toList := by
    induction text.toList with
    | nil => rfl
    | cons c s ih =>
      rw [List.map_cons, decodePieces_written, ih]
      rfl
  rw [Lexeme.read, Lexeme.decode, Lexeme.ofText, chars]
  exact congrArg Except.ok String.ofList_toList

/-! ### Control characters -/

theorem visible_digitChar : ∀ n < 16, ¬ Nat.digitChar n < ' ' := by decide

/-- No control character is left in a text that has been written as a string. -/
theorem visible_of_mem_escapeChar {c d : Char} (written : d ∈ escapeChar c) : ¬ d < ' ' := by
  unfold escapeChar at written
  split at written
  case h_8 =>
    split at written
    case isTrue =>
      have digit (code : Nat) : ¬ Nat.digitChar (code % 16) < ' ' := visible_digitChar _ (Nat.mod_lt code (by decide))
      simp only [hexPair, List.mem_append, List.mem_cons, List.not_mem_nil, or_false] at written
      rcases written with (rfl | rfl | rfl | rfl) | rfl | rfl
      all_goals first | exact digit _ | decide
    case isFalse visible =>
      obtain rfl := List.mem_singleton.mp written
      exact visible
  all_goals
    simp only [List.mem_cons, List.not_mem_nil, or_false] at written
    rcases written with rfl | rfl <;> decide

theorem visible_of_mem_quoteChars {s : List Char} {d : Char} (written : d ∈ quoteChars s) : ¬ d < ' ' := by
  simp only [quoteChars, List.mem_cons, List.mem_append, List.mem_flatMap, List.not_mem_nil, or_false] at written
  rcases written with rfl | ⟨c, -, inside⟩ | rfl
  · decide
  · exact visible_of_mem_escapeChar inside
  · decide

end SwaggerSdk.Json
