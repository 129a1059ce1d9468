import Mathlib.Data.List.Flatten
import Mathlib.Data.List.Perm.Subperm
import Backlog.Text
/-!
Texts and the bytes that encode them. Each text has one run of bytes, and a run of bytes that can be
read is the one of the text it reads as.

- `Text.of_utf8_iff`: which bytes read as a text;
- `Text.slash_byte_iff`: a slash is the only character with the byte of a slash;
- `Text.utf8_length_subperm`: a text has at least the bytes of any of its characters.
-/
namespace Backlog.Text
set_option autoImplicit false

theorem of_utf8_utf8 (t : Text) : ofUtf8? (utf8 t) = some t := by
  have valid : (utf8 t).toByteArray.IsValidUTF8 := ByteArray.isValidUTF8_utf8Encode
  have same : String.fromUTF8 (utf8 t).toByteArray valid = String.ofList t := rfl
  rw [ofUtf8?, String.fromUTF8?, dif_pos valid, Option.map_some, same, String.toList_ofList]

theorem of_utf8_iff {bytes : List UInt8} {t : Text} : ofUtf8? bytes = some t ↔ bytes = utf8 t := by
  constructor
  · intro h
    obtain ⟨s, decoded, rfl⟩ := Option.map_eq_some_iff.1 h
    unfold String.fromUTF8? at decoded
    split at decoded
    next valid =>
      obtain rfl := Option.some.inj decoded
      have same : (utf8 (String.fromUTF8 bytes.toByteArray valid).toList).toByteArray =
          bytes.toByteArray := String.utf8Encode_toList
      exact (List.toByteArray_inj.1 same).symm
    next => exact absurd decoded (by simp)
  · rintro rfl
    exact of_utf8_utf8 t

theorem ascii_byte {c : Char} (h : c.val.toNat ≤ 127) :
    String.utf8EncodeChar c = [UInt8.ofNat c.val.toNat] := if_pos h

/-- No byte of a character beyond ASCII is the byte of an ASCII character. -/
theorem high_bytes {c : Char} (h : 127 < c.val.toNat) :
    ∀ b ∈ String.utf8EncodeChar c, 128 ≤ b.toNat := by
  have high (n : Nat) (low : 128 ≤ n) (byte : n < 256) : 128 ≤ (UInt8.ofNat n).toNat := by
    rwa [UInt8.toNat_ofNat_of_lt' byte]
  unfold String.utf8EncodeChar
  dsimp only
  rw [if_neg (by omega)]
  split
  · simp only [List.forall_mem_cons]
    exact ⟨high _ (by omega) (by omega), high _ (by omega) (by omega), nofun⟩
  split
  · simp only [List.forall_mem_cons]
    exact ⟨high _ (by omega) (by omega), high _ (by omega) (by omega), high _ (by omega) (by omega),
      nofun⟩
  · simp only [List.forall_mem_cons]
    exact ⟨high _ (by omega) (by omega), high _ (by omega) (by omega), high _ (by omega) (by omega),
      high _ (by omega) (by omega), nofun⟩

/-- The byte that encodes a slash, and nothing else. -/
def slashByte : UInt8 := 47

theorem slash_byte_iff {t : Text} : slashByte ∈ utf8 t ↔ '/' ∈ t := by
  have encoded (c : Char) : slashByte ∈ String.utf8EncodeChar c ↔ c = '/' := by
    constructor
    · intro h
      by_cases ascii : c.val.toNat ≤ 127
      · rw [ascii_byte ascii] at h
        have value := congrArg UInt8.toNat (List.mem_singleton.1 h)
        have byte : c.val.toNat < UInt8.size := Nat.lt_of_le_of_lt ascii (by decide)
        rw [UInt8.toNat_ofNat_of_lt' byte] at value
        exact Char.ext (UInt32.toNat_inj.1 value.symm)
      · have high := high_bytes (by omega) _ h
        exact absurd high (by decide)
    · rintro rfl
      decide
  unfold utf8
  simp only [List.mem_flatMap, encoded, exists_eq_right]

/-! ## Numbers of bytes -/

theorem utf8_length_append (t u : Text) : utf8Length (t ++ u) = utf8Length t + utf8Length u := by
  unfold utf8Length utf8
  rw [List.flatMap_append, List.length_append]

/-- A text has at least as many bytes as any of its characters, in any order. -/
theorem utf8_length_subperm {t u : Text} (h : t.Subperm u) : utf8Length t ≤ utf8Length u := by
  obtain ⟨part, perm, sub⟩ := h
  have same : (utf8 part).length = (utf8 t).length := (perm.flatMap_right _).length_eq
  have less : (utf8 part).length ≤ (utf8 u).length := (sub.flatMap _).length_le
  unfold utf8Length
  omega

theorem utf8_length_ended (sep : Text) (ts : List Text) :
    utf8Length (ts.flatMap fun t => t ++ sep) = utf8Length ts.flatten + ts.length * utf8Length sep := by
  induction ts with
  | nil => simp [utf8Length, utf8]
  | cons t ts ih =>
    rw [List.flatMap_cons, List.flatten_cons, utf8_length_append, utf8_length_append,
      utf8_length_append, ih, List.length_cons, Nat.succ_mul]
    omega

end Backlog.Text
