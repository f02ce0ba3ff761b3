import StagedBuild.Text.Spelling

/-!
# Quotation

How tools show names and arguments in messages: between quotes, which are curly where the charset has
such, or as a shell would read them back. What cannot be printed is shown by an escape.
-/

namespace StagedBuild.Script.Quotation

open Text

/-- A character that can be shown as it is. -/
def isPrintable (c : Char) : Bool :=
  32 ≤ c.toNat && !(127 ≤ c.toNat && c.toNat < 160)

/-- The letter that stands for a control character. -/
def controlLetter? (c : Char) : Option Char :=
  [7, 8, 9, 10, 11, 12, 13].zip "abtnvfr".toList |>.lookup c.toNat

/-- An octet by its number to the base eight. -/
def octal (c : Char) : String :=
  let digits := Nat.toDigits 8 c.toNat
  String.ofList ('\\' :: List.replicate (3 - digits.length) '0' ++ digits)

/-- The escape for what cannot be printed. -/
def escape? (unit : Spelt) : Option String :=
  match unit.char with
  | some c =>
    if isPrintable c then none
    else match controlLetter? c with
      | some letter => some (String.ofList ['\\', letter])
      | none => some (String.join (unit.octets.toList.map octal))
  | none => some (String.join (unit.octets.toList.map octal))

/-- Text between the quotes of a charset. -/
def inQuotes (charset : Charset) (octets : String) : String :=
  let closing := if charset = .utf8 then '’' else '\''
  let inner := (charset.spelt octets.toList).map fun unit =>
    match escape? unit with
    | some escape => escape
    | none =>
      if unit.char = some '\\' ∨ unit.char = some closing then "\\" ++ unit.octets
      else unit.octets
  if charset = .utf8 then Octets.ofText "‘" ++ String.join inner ++ Octets.ofText "’"
  else "'" ++ String.join inner ++ "'"

/-- A character that means the same inside double quotes. -/
def isPlain (c : Char) : Bool :=
  c.isAlphanum || "%+,-./:]_' ".contains c || (128 ≤ c.toNat && isPrintable c)

/-- The parts of a text in single quotes, each closed before an escape and after it. -/
def pieces : (escaping : Bool) → List Spelt → String
  | _, [] => ""
  | escaping, unit :: rest =>
    match escape? unit with
    | some escape => (if escaping then "" else "'$'") ++ escape ++ pieces true rest
    | none =>
      let shown := if unit.char = some '\'' then "'\\''"
        else if escaping then "''" ++ unit.octets else unit.octets
      shown ++ pieces false rest

/-- Text as a shell would read it back, always in quotes. -/
def always (charset : Charset) (octets : String) : String :=
  let units := charset.spelt octets.toList
  if octets.contains '\'' && units.all fun unit => unit.char.any isPlain then
    "\"" ++ octets ++ "\""
  else "'" ++ pieces false units ++ "'"

/-- Text as a shell would read it back, in quotes only if it has characters that need them. -/
def whereNeeded (needing : String) (charset : Charset) (octets : String) : String :=
  let special (unit : Spelt) : Bool :=
    (escape? unit).isSome || unit.char.any fun c => needing.contains c
  let units := charset.spelt octets.toList
  let starts := octets.startsWith "#" || octets.startsWith "~"
  let lone := octets = "\x7b" || octets = "\x7d"
  if octets.isEmpty || starts || lone || units.any special then always charset octets else octets

/-- Text as a shell would read it back. -/
def forShell : Charset → String → String :=
  whereNeeded " !\"$&()*;<=>[^`|'\\?"

/-- Text as a shell would read it back, in a message: a colon needs quotes, because messages have
colons of their own. -/
def ifNeeded : Charset → String → String :=
  whereNeeded " !\"$&()*;<=>[^`|'\\?:"

end StagedBuild.Script.Quotation
