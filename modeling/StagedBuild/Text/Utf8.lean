/-!
# UTF-8

Reading bytes as text, strictly (`decode?`) or with U+FFFD in place of each damaged sequence
(`decodeLossy`). A damaged sequence is the longest run of bytes that begins some character but
does not complete it, or else one byte that begins none.
-/

namespace StagedBuild.Text.Utf8

/-- What follows a leading byte above 0x7F: how many bytes, the range of the first of them, and
the bits that the leading byte gives to the character. -/
structure Lead where
  count : Nat
  low : Nat
  high : Nat
  bits : Nat
  deriving DecidableEq, Repr

/-- The leading bytes of two, three and four byte characters. The narrower ranges leave out
overlong forms, surrogates and numbers above U+10FFFF. -/
def Lead.ofByte? (byte : Nat) : Option Lead :=
  if byte < 0xC2 then none
  else if byte ≤ 0xDF then some ⟨1, 0x80, 0xBF, byte - 0xC0⟩
  else if byte = 0xE0 then some ⟨2, 0xA0, 0xBF, 0⟩
  else if byte = 0xED then some ⟨2, 0x80, 0x9F, 0xD⟩
  else if byte ≤ 0xEF then some ⟨2, 0x80, 0xBF, byte - 0xE0⟩
  else if byte = 0xF0 then some ⟨3, 0x90, 0xBF, 0⟩
  else if byte ≤ 0xF3 then some ⟨3, 0x80, 0xBF, byte - 0xF0⟩
  else if byte = 0xF4 then some ⟨3, 0x80, 0x8F, 4⟩
  else none

/-- Reads `count` continuation bytes, the first of them between `low` and `high`. Stops before
the first byte that does not fit. -/
def continuation : (count low high bits : Nat) → List UInt8 → Option Nat × List UInt8
  | 0, _, _, bits, rest => (some bits, rest)
  | _ + 1, _, _, _, [] => (none, [])
  | count + 1, low, high, bits, byte :: rest =>
    if low ≤ byte.toNat ∧ byte.toNat ≤ high then
      continuation count 0x80 0xBF (bits * 64 + (byte.toNat - 0x80)) rest
    else (none, byte :: rest)

theorem continuation_length_le (count low high bits : Nat) (bytes : List UInt8) :
    (continuation count low high bits bytes).2.length ≤ bytes.length := by
  induction count generalizing low high bits bytes with
  | zero => simp [continuation]
  | succ count ih =>
    cases bytes with
    | nil => simp [continuation]
    | cons byte rest =>
      simp only [continuation]
      split
      · exact Nat.le_succ_of_le (ih ..)
      · simp

/-- The characters that the bytes spell, with `none` for each damaged sequence. -/
def characters : List UInt8 → List (Option Char)
  | [] => []
  | byte :: rest =>
    if byte.toNat < 0x80 then some (Char.ofNat byte.toNat) :: characters rest
    else match Lead.ofByte? byte.toNat with
      | none => none :: characters rest
      | some lead =>
        let read := continuation lead.count lead.low lead.high lead.bits rest
        read.1.map Char.ofNat :: characters read.2
termination_by bytes => bytes.length
decreasing_by
  all_goals simp only [List.length_cons]
  · omega
  · omega
  · exact Nat.lt_succ_of_le (continuation_length_le ..)

/-- The text that the bytes spell, if none is damaged. -/
def decode? (bytes : List UInt8) : Option String :=
  ((characters bytes).mapM id).map String.ofList

/-- The text that the bytes spell, with U+FFFD for each damaged sequence. -/
def decodeLossy (bytes : List UInt8) : String :=
  String.ofList ((characters bytes).map fun c => c.getD (Char.ofNat 0xFFFD))

/-- The bytes that spell a text. -/
def encode (text : String) : List UInt8 :=
  text.toUTF8.toList

end StagedBuild.Text.Utf8
