/-!
# Blank characters

The Unicode property White_Space: 25 characters in ten ranges. It has more members than the
ASCII blanks that the standard library knows, and does not hold U+200B or U+FEFF.
-/

namespace StagedBuild.Text

/-- First and last character of each range of White_Space. -/
def blankRanges : List (Nat × Nat) :=
  [(0x09, 0x0D), (0x20, 0x20), (0x85, 0x85), (0xA0, 0xA0), (0x1680, 0x1680), (0x2000, 0x200A),
   (0x2028, 0x2029), (0x202F, 0x202F), (0x205F, 0x205F), (0x3000, 0x3000)]

/-- The character has the property White_Space. -/
def isBlank (c : Char) : Bool :=
  blankRanges.any fun (first, last) => first ≤ c.toNat && c.toNat ≤ last

/-- The text without its leading blanks. -/
def dropBlanks (text : String) : String :=
  String.ofList (text.toList.dropWhile isBlank)

example : (blankRanges.map fun (first, last) => last + 1 - first).sum = 25 := by decide

end StagedBuild.Text
