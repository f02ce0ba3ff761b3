import StagedBuild.Text.Utf8

/-!
# Octets

Bytes kept as text: every character stands for the byte of its number. A script works on such text,
because what a shell counts, compares and cuts are bytes, whether they spell characters or not.
-/

namespace StagedBuild.Text.Octets

/-- The character that stands for a byte. -/
def ofByte (byte : UInt8) : Char := Char.ofNat byte.toNat

/-- The byte that a character stands for. -/
def toByte (c : Char) : UInt8 := UInt8.ofNat c.toNat

/-- Bytes as octets. -/
def ofBytes (bytes : List UInt8) : String := String.ofList (bytes.map ofByte)

/-- The bytes that octets stand for. -/
def toBytes (octets : String) : List UInt8 := octets.toList.map toByte

/-- The octets of an array of bytes. -/
def ofArray (bytes : ByteArray) : String :=
  bytes.foldl (fun octets byte => octets.push (ofByte byte)) ""

/-- The array of the bytes that octets stand for. -/
def toArray (octets : String) : ByteArray :=
  octets.foldl (fun bytes c => bytes.push (toByte c)) .empty

/-- The octets of a text. -/
def ofText (text : String) : String := ofBytes (Utf8.encode text)

/-- The text that octets spell, with U+FFFD for each damaged sequence. -/
def toText (octets : String) : String := Utf8.decodeLossy (toBytes octets)

end StagedBuild.Text.Octets
