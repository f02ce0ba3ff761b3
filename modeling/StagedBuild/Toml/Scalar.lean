import StagedBuild.Text.Cut
import StagedBuild.Toml.Value

/-!
# Unquoted scalars

Numbers, booleans, dates and times. A scalar is one word, or several with blanks between them when
it is a date and a time. Underscores part the digits of a number; where an integer is due, the
digits of base sixteen count, so that `1_a` is a word that has no value but does no harm.
-/

namespace StagedBuild.Toml.Scalar

/-- A character of a word. -/
def isWordChar (c : Char) : Bool :=
  !([' ', '\t', '\r', '\n', '#', '=', ',', '[', ']', '\x7b', '\x7d'].contains c)

/-- A character that a word may start with after a blank. -/
def startsWord (c : Char) : Bool :=
  isWordChar c && !(['.', '"', '\''].contains c)

/-- Splits a word from what follows it, after `blanks`. Blanks between two words belong to them. -/
def word (blanks : List Char) : List Char → List Char × List Char
  | [] => ([], blanks)
  | c :: rest =>
    if c == ' ' || c == '\t' then word (blanks ++ [c]) rest
    else if startsWord c || (blanks.isEmpty && isWordChar c) then
      let (more, after) := word [] rest
      (blanks ++ c :: more, after)
    else ([], blanks ++ c :: rest)

/-- A digit of base sixteen. -/
def isHexDigit (c : Char) : Bool :=
  c.isDigit || ('a' ≤ c.toLower && c.toLower ≤ 'f')

/-- The text without its underscores. A digit has to stand before and after each. -/
def withoutUnderscores? (isDigit : Char → Bool) (text : List Char) : Option (List Char) :=
  let groups := Text.splitOn '_' text
  if groups.dropLast.all (fun group => group.getLast?.any isDigit) &&
      groups.tail.all (fun group => group.head?.any isDigit) then
    some groups.flatten
  else none

/-- The value of a letter or digit as a digit. -/
def digitValue (c : Char) : Nat :=
  if c.isDigit then c.toNat - '0'.toNat else c.toLower.toNat - 'a'.toNat + 10

/-- The number that digits spell in a base. -/
def number (base : Nat) (digits : List Char) : Nat :=
  digits.foldl (fun n c => n * base + digitValue c) 0

/-- The sign of a number, true for minus, and what follows it. -/
def sign : List Char → Bool × List Char
  | '-' :: rest => (true, rest)
  | '+' :: rest => (false, rest)
  | text => (false, text)

/-- An integer in a base other than ten, after its mark. -/
def based? (base : Nat) (isDigit : Char → Bool) (word digits : List Char) : Option Value :=
  if digits.all fun c => isDigit c || c == '_' then
    (withoutUnderscores? isDigit digits).map fun digits =>
      if digits.isEmpty then .misspelt (String.ofList word) else .integer (number base digits)
  else none

/-- A decimal integer without a leading zero; zero itself is one. After an underscore anything that
underscores may part goes on, but with anything besides digits it is no number. -/
def integer? (word : List Char) : Option Value :=
  let body := (sign word).2
  let rest := body.dropWhile Char.isDigit
  if body.isEmpty || (body.head? == some '0' && 1 < body.length) then none
  else if rest.isEmpty || rest.head? == some '_' then
    (withoutUnderscores? isHexDigit word).map fun stripped =>
      let (negative, digits) := sign stripped
      if digits.isEmpty || !digits.all Char.isDigit then .misspelt (String.ofList word)
      else
        let n : Int := number 10 digits
        .integer (if negative then -n else n)
  else none

/-- Splits digits and underscores from what follows them. -/
def digitRun (text : List Char) : List Char × List Char :=
  text.span fun c => c.isDigit || c == '_'

/-- There is a digit, and no zero before others. -/
def isWhole (run : List Char) : Bool :=
  run.any Char.isDigit && !(run.head? == some '0' && 1 < run.countP Char.isDigit)

/-- The digits after a point, if there is one, and what follows them. -/
def places? : List Char → Option (List Char × List Char)
  | '.' :: rest =>
    let (run, rest) := digitRun rest
    if run.any Char.isDigit then some (run.filter Char.isDigit, rest) else none
  | rest => some ([], rest)

/-- The exponent that ends a number, zero if nothing is written. -/
def exponent? : List Char → Option Int
  | [] => some 0
  | mark :: text =>
    let (negative, rest) := sign text
    let (run, rest) := digitRun rest
    if (mark == 'e' || mark == 'E') && run.any Char.isDigit && rest.isEmpty then
      let n : Int := number 10 (run.filter Char.isDigit)
      some (if negative then -n else n)
    else none

/-- A number with a fraction, an exponent or both. -/
def fraction? (word : List Char) : Option Value := do
  let _ ← withoutUnderscores? Char.isDigit word
  let (negative, body) := sign word
  let (run, rest) := digitRun body
  if isWhole run then
    let (places, rest) ← places? rest
    let exponent ← exponent? rest
    let digits := number 10 (run.filter Char.isDigit ++ places)
    return .float (.finite negative digits (exponent - places.length))
  else none

/-- Infinity and not a number, with or without a sign. -/
def special? (text : List Char) : Option Value :=
  let (negative, rest) := sign text
  if rest = ['i', 'n', 'f'] then some (.float (.infinite negative))
  else if rest = ['n', 'a', 'n'] then some (.float .notANumber)
  else none

/-- Exactly two digits as a number. -/
def two? (a b : Char) : Option Nat :=
  if a.isDigit && b.isDigit then some (number 10 [a, b]) else none

/-- How many days a month has. -/
def daysIn (year month : Nat) : Nat :=
  if month = 2 then
    if year % 4 = 0 ∧ (year % 100 ≠ 0 ∨ year % 400 = 0) then 29 else 28
  else if month = 4 ∨ month = 6 ∨ month = 9 ∨ month = 11 then 30
  else 31

/-- Reads a date that exists. -/
def date? : List Char → Option (List Char)
  | y1 :: y2 :: y3 :: y4 :: '-' :: m1 :: m2 :: '-' :: d1 :: d2 :: rest => do
    let century ← two? y1 y2
    let year ← two? y3 y4
    let month ← two? m1 m2
    let day ← two? d1 d2
    if 1 ≤ month ∧ month ≤ 12 ∧ 1 ≤ day ∧ day ≤ daysIn (century * 100 + year) month then rest
    else none
  | _ => none

/-- Reads the fraction of a second, if there is one. -/
def secondFraction? : List Char → Option (List Char)
  | '.' :: rest =>
    if (rest.head?.map Char.isDigit).getD false then some (rest.dropWhile Char.isDigit) else none
  | rest => some rest

/-- Reads the seconds of a time, if they are written. -/
def seconds? : List Char → Option (List Char)
  | ':' :: s1 :: s2 :: rest => do
    let second ← two? s1 s2
    if second ≤ 60 then secondFraction? rest else none
  | ':' :: _ => none
  | rest => some rest

/-- Reads a time of day. -/
def time? : List Char → Option (List Char)
  | h1 :: h2 :: ':' :: m1 :: m2 :: rest => do
    let hour ← two? h1 h2
    let minute ← two? m1 m2
    if hour ≤ 23 ∧ minute ≤ 59 then seconds? rest else none
  | _ => none

/-- The text is an offset from universal time, or nothing. -/
def isOffset : List Char → Bool
  | [] | ['Z'] | ['z'] => true
  | [s, h1, h2, ':', m1, m2] =>
    (s == '+' || s == '-') && (two? h1 h2).any (· ≤ 23) && (two? m1 m2).any (· ≤ 59)
  | _ => false

/-- The text is a date, a time, or both with or without an offset. -/
def isDatetime (text : List Char) : Bool :=
  match date? text with
  | some [] => true
  | some (mark :: rest) =>
    (mark == 'T' || mark == 't' || mark == ' ') && (time? rest).any isOffset
  | none => time? text == some []

/-- A date, a time, or both. -/
def datetime? (text : List Char) : Option Value :=
  if isDatetime text then some (.datetime (String.ofList text)) else none

/-- A number, a date or a time. What follows the first digits tells which. -/
def numeric? (word : List Char) : Option Value :=
  match word with
  | '0' :: 'x' :: digits => based? 16 isHexDigit word digits
  | '0' :: 'o' :: digits => based? 8 (fun c => '0' ≤ c && c ≤ '7') word digits
  | '0' :: 'b' :: digits => based? 2 (fun c => c == '0' || c == '1') word digits
  | _ =>
    let rest := (sign word).2.dropWhile Char.isDigit
    if rest.head? == some '-' || rest.head? == some ':' then datetime? word
    else if rest.contains ' ' then none
    else if rest.any fun c => c == '.' || c == 'e' || c == 'E' then fraction? word
    else integer? word

/-- The value of a whole word. -/
def ofWord? (word : List Char) : Option Value :=
  if word = "true".toList then some (.boolean true)
  else if word = "false".toList then some (.boolean false)
  else special? word <|> numeric? word

/-- Reads a scalar. -/
def scalar? (text : List Char) : Option (Value × List Char) :=
  let (word, rest) := word [] text
  (ofWord? word).map fun value => (value, rest)

end StagedBuild.Toml.Scalar
