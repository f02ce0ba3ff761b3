import StagedBuild.Text.Blank
import StagedBuild.Text.Width

/-!
# Letters

Classes of characters as programs know them that take octets for characters: letters, capitals and
small letters, punctuation and so on. Of letters beyond ASCII those of the common scripts are known,
and the capitals of Latin, Greek and Cyrillic letters.
-/

namespace StagedBuild.Text

/-- First and last of letters beyond ASCII, and of what counts as such. -/
def letterRanges : List (Nat × Nat) :=
  [(0xAA, 0xAA), (0xB5, 0xB5), (0xBA, 0xBA), (0xC0, 0xD6), (0xD8, 0xF6), (0xF8, 0x2C1),
   (0x2C6, 0x2D1), (0x2E0, 0x2E4), (0x370, 0x374), (0x376, 0x377), (0x37A, 0x37D), (0x37F, 0x37F),
   (0x386, 0x386), (0x388, 0x3FF), (0x400, 0x481), (0x48A, 0x52F), (0x531, 0x556), (0x560, 0x588),
   (0x5D0, 0x5EA), (0x620, 0x64A), (0x660, 0x669), (0x671, 0x6D3), (0x904, 0x939), (0x966, 0x96F),
   (0xE01, 0xE30), (0xE40, 0xE46), (0x10A0, 0x10FA), (0x1100, 0x1248), (0x13A0, 0x13F5),
   (0x1E00, 0x1FBC), (0x2071, 0x2071), (0x207F, 0x207F), (0x2090, 0x209C), (0x2102, 0x2102),
   (0x210A, 0x2113), (0x2160, 0x2188), (0x2C00, 0x2CE4), (0x3005, 0x3007), (0x3021, 0x3029),
   (0x3041, 0x3096), (0x309D, 0x309F), (0x30A1, 0x30FA), (0x30FC, 0x30FF), (0x3105, 0x312F),
   (0x3131, 0x318E), (0x3400, 0x4DBF), (0x4E00, 0x9FFF), (0xA000, 0xA48C), (0xAC00, 0xD7A3),
   (0xF900, 0xFA6D), (0xFB00, 0xFB06), (0xFF10, 0xFF19), (0xFF21, 0xFF3A), (0xFF41, 0xFF5A),
   (0xFF66, 0xFFBE), (0x10400, 0x1044F), (0x20000, 0x2FA1D)]

/-- The character is a letter. -/
def isLetter (c : Char) : Bool :=
  c.isAlpha || (128 ≤ c.toNat && isInRanges letterRanges c.toNat)

/-- Ranges of capitals with the distance to their small letters. -/
def capitalRanges : List (Nat × Nat × Nat) :=
  [(0x41, 0x5A, 32), (0xC0, 0xD6, 32), (0xD8, 0xDE, 32), (0x391, 0x3A1, 32), (0x3A3, 0x3AB, 32),
   (0x410, 0x42F, 32), (0x400, 0x40F, 80), (0x531, 0x556, 48), (0xFF21, 0xFF3A, 32),
   (0x10400, 0x10427, 40)]

/-- Ranges in which capitals and small letters take turns, with whether the capitals are the even
numbers. -/
def pairRanges : List (Nat × Nat × Bool) :=
  [(0x100, 0x12F, true), (0x132, 0x137, true), (0x139, 0x148, false), (0x14A, 0x177, true),
   (0x179, 0x17E, false), (0x1DE, 0x1EF, true), (0x1F8, 0x21F, true), (0x222, 0x233, true),
   (0x3D8, 0x3EF, true), (0x460, 0x481, true), (0x48A, 0x4BF, true), (0x4C1, 0x4CE, false),
   (0x4D0, 0x52F, true), (0x1E00, 0x1E95, true), (0x1EA0, 0x1EFF, true)]

/-- The small letter of a capital; other characters stay. -/
def toSmall (c : Char) : Char :=
  let code := c.toNat
  let found := capitalRanges.findSome? fun (first, last, distance) =>
    if first ≤ code && code ≤ last then some (code + distance) else none
  let paired := pairRanges.findSome? fun (first, last, even) =>
    if first ≤ code && code ≤ last && (code % 2 == 0) == even then some (code + 1) else none
  match found <|> paired with
  | some small => Char.ofNat small
  | none => c

/-- The capital of a small letter; other characters stay. -/
def toCapital (c : Char) : Char :=
  let code := c.toNat
  let found := capitalRanges.findSome? fun (first, last, distance) =>
    if first + distance ≤ code && code ≤ last + distance then some (code - distance) else none
  let paired := pairRanges.findSome? fun (first, last, even) =>
    if first ≤ code && code ≤ last && (code % 2 == 0) != even then some (code - 1) else none
  match found <|> paired with
  | some capital => Char.ofNat capital
  | none => if c = 'ÿ' then 'Ÿ' else c

/-- The character is a blank that may divide words and lines. -/
def isGap (c : Char) : Bool :=
  isBlank c && !(['\x85', '\xa0', '\u2007', '\u202f'].contains c)

/-- The classes of characters by their names. -/
def class? : String → Option (Char → Bool)
  | "alpha" => some isLetter
  | "alnum" => some fun c => isLetter c || c.isDigit
  | "digit" => some Char.isDigit
  | "xdigit" => some fun c => c.isDigit || ('a' ≤ c && c ≤ 'f') || ('A' ≤ c && c ≤ 'F')
  | "upper" => some fun c => toSmall c != c
  | "lower" => some fun c => toCapital c != c || c = 'ß'
  | "space" => some isGap
  | "blank" => some fun c => c == '\t' || (isGap c && isPrintable c)
  | "cntrl" => some fun c => c.toNat < 32 || (127 ≤ c.toNat && c.toNat < 160)
  | "print" => some isPrintable
  | "graph" => some fun c => isPrintable c && !isGap c
  | "punct" => some fun c => isPrintable c && !isGap c && !isLetter c && !c.isDigit
  | _ => none

/-- The character is part of a word. -/
def isWordChar (c : Char) : Bool :=
  c == '_' || isLetter c || c.isDigit

end StagedBuild.Text
