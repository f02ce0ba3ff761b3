import Mathlib.Data.List.Basic
import StagedBuild.Text.Utf8

/-!
# Texts in the order of their bytes

Texts are compared character by character. UTF-8 is made so that comparing the bytes gives the same
order (`encode_lt_iff`): the smaller of two characters has the smaller bytes, and they differ before
either of them ends (`utf8EncodeChar_append_lt`).
-/

namespace StagedBuild.Text.Utf8

/-- The loop of `ByteArray.toList` puts what it has not yet read behind what it has collected. -/
theorem toList_loop (bytes : ByteArray) (position : Nat) (collected : List UInt8) :
    ByteArray.toList.loop bytes position collected =
      collected.reverse ++ bytes.data.toList.drop position := by
  fun_induction ByteArray.toList.loop bytes position collected with
  | case1 position collected inside ih =>
    have here : position < bytes.data.toList.length := by simpa using inside
    have read : bytes.get! position = bytes.data.toList[position] := by
      simp [ByteArray.get!, inside]
    rw [ih, List.reverse_cons, List.append_assoc, List.drop_eq_getElem_cons here, read]
    rfl
  | case2 position collected outside =>
    have past : bytes.data.toList.length ≤ position := by simpa using outside
    rw [List.drop_eq_nil_of_le past, List.append_nil]

/-- A text is spelled by the bytes of one character after another. -/
theorem encode_eq_flatMap (text : String) :
    encode text = text.toList.flatMap String.utf8EncodeChar := by
  have whole : encode text = text.toUTF8.data.toList := toList_loop text.toUTF8 0 []
  have chars : text.toUTF8 = text.toList.utf8Encode := by simp
  rw [whole, chars, List.utf8Encode, List.toList_data_toByteArray]

/-- Numbers that fit into a byte are compared as bytes. -/
theorem cons_ofNat_lt {a b : Nat} (ha : a < 256) (hb : b < 256) (rest rest' : List UInt8) :
    UInt8.ofNat a :: rest < UInt8.ofNat b :: rest' ↔ a < b ∨ a = b ∧ rest < rest' := by
  rw [List.cons_lt_cons_iff, UInt8.lt_iff_toNat_lt, ← UInt8.toNat_inj,
    UInt8.toNat_ofNat_of_lt' ha, UInt8.toNat_ofNat_of_lt' hb]

theorem toNat_lt_size (c : Char) : c.val.toNat < 0x110000 := by
  rcases c.valid with low | ⟨_, high⟩
  · exact Nat.lt_trans low (by decide)
  · exact high

/-- Of two characters the smaller one has the smaller bytes, whatever follows them. -/
theorem utf8EncodeChar_append_lt {c d : Char} (less : c < d) (rest rest' : List UInt8) :
    String.utf8EncodeChar c ++ rest < String.utf8EncodeChar d ++ rest' := by
  have order : c.val.toNat < d.val.toNat := less
  have bound := toNat_lt_size d
  unfold String.utf8EncodeChar
  generalize c.val.toNat = m at *
  generalize d.val.toNat = n at *
  -- The bytes behind the first are digits to the base 64; said so, they compare as numbers do.
  have twice (v : Nat) : v / 4096 = v / 64 / 64 := by omega
  have thrice (v : Nat) : v / 262144 = v / 64 / 64 / 64 := by omega
  -- With unequal numbers of bytes the first byte decides: it is larger where there are more.
  dsimp only
  split_ifs <;>
    simp (disch := omega) only [List.cons_append, List.nil_append, cons_ofNat_lt, twice, thrice] <;>
    omega

theorem flatMap_utf8EncodeChar_lt {text text' : List Char} (less : text < text') :
    text.flatMap String.utf8EncodeChar < text'.flatMap String.utf8EncodeChar := by
  induction less with
  | nil =>
    rename_i c rest
    have some' : (c :: rest).flatMap String.utf8EncodeChar ≠ [] := by
      simp [String.utf8EncodeChar_ne_nil]
    obtain ⟨byte, bytes, eq⟩ := List.exists_cons_of_ne_nil some'
    rw [eq]
    exact List.nil_lt_cons byte bytes
  | cons _ ih =>
    rw [List.flatMap_cons, List.flatMap_cons]
    exact List.append_left_lt ih
  | rel less =>
    rw [List.flatMap_cons, List.flatMap_cons]
    exact utf8EncodeChar_append_lt less _ _

/-- Texts are ordered by their bytes as they are by their characters. -/
theorem encode_lt_iff (text text' : String) : encode text < encode text' ↔ text < text' := by
  have mono {a b : String} (less : a < b) : encode a < encode b := by
    rw [encode_eq_flatMap, encode_eq_flatMap]
    exact flatMap_utf8EncodeChar_lt (String.lt_iff.mp less)
  refine ⟨fun less => ?_, mono⟩
  rcases Std.lt_trichotomy text text' with before | same | behind
  · exact before
  · exact absurd less (same ▸ List.lt_irrefl (encode text))
  · exact absurd less (List.lt_asymm (mono behind))

end StagedBuild.Text.Utf8
