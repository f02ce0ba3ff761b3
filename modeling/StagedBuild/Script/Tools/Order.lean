import StagedBuild.Script.Numeral
import StagedBuild.Script.Tools.Options

/-!
# Orders of lines

How lines are compared: as bytes, as numbers, as names of months, as versions. A key is a part of a
line with an order of its own; lines are compared by their keys in turn, and by all their bytes when
the keys do not tell them apart.
-/

namespace StagedBuild.Script.Tools

namespace Order

/-- The character divides the fields of a line. -/
def isBlank (c : Char) : Bool :=
  c == ' ' || c == '\t' || c == '\n'

/-- Texts in the order of their bytes. -/
def bytes : List Char → List Char → Ordering
  | [], [] => .eq
  | [], _ :: _ => .lt
  | _ :: _, [] => .gt
  | a :: as, b :: bs => (compare a.toNat b.toNat).then (bytes as bs)

/-- A decimal number at the start of a text: its sign, the digits before the point without zeros in
front, and those behind it without zeros at the end. -/
structure Number where
  negative : Bool
  whole : List Char
  fraction : List Char

/-- Reads the number that a text starts with, which is zero if there is none. -/
def Number.read (text : List Char) : Number × List Char :=
  let text := text.dropWhile isBlank
  let (negative, text) := match text with
    | '-' :: rest => (true, rest)
    | rest => (false, rest)
  let whole := text.takeWhile Char.isDigit
  let rest := text.dropWhile Char.isDigit
  let (fraction, rest) := match rest with
    | '.' :: rest => (rest.takeWhile Char.isDigit, rest.dropWhile Char.isDigit)
    | rest => ([], rest)
  let whole := whole.dropWhile (· == '0')
  let fraction := (fraction.reverse.dropWhile (· == '0')).reverse
  (⟨negative && !(whole.isEmpty && fraction.isEmpty), whole, fraction⟩, rest)

/-- Two numbers without their signs. -/
def Number.compareSizes (a b : Number) : Ordering :=
  (compare a.whole.length b.whole.length).then
    ((bytes a.whole b.whole).then (bytes a.fraction b.fraction))

/-- Two numbers. -/
def Number.compare (a b : Number) : Ordering :=
  match a.negative, b.negative with
  | false, false => compareSizes a b
  | true, true => compareSizes b a
  | true, false => .lt
  | false, true => .gt

/-- By the numbers that texts start with. -/
def numeric (a b : List Char) : Ordering :=
  (Number.read a).1.compare (Number.read b).1

/-- By numbers with letters for units: first by sign and unit, then by number. -/
def withUnits (a b : List Char) : Ordering :=
  let rank (text : List Char) : Int × Number :=
    let (number, rest) := Number.read text
    let isZero := number.whole.isEmpty && number.fraction.isEmpty
    let power := match rest with
      | c :: _ => ("KMGTPEZYRQ".toList.idxOf? (if c = 'k' then 'K' else c)).elim 0 (· + 1)
      | [] => 0
    let power : Int := if isZero then 0 else power
    (if number.negative then -power else power, number)
  let (a, b) := (rank a, rank b)
  (compare a.1 b.1).then (a.2.compare b.2)

/-- By numbers with fractions and exponents. What is no number comes first, and then what is not a
number in the other sense. -/
def general (a b : List Char) : Ordering :=
  let rank (text : List Char) : Nat × Int × Nat :=
    let text := text.dropWhile isBlank
    let (found, rest) := Numeral.readReal .extended text
    if rest.length = text.length then (0, 0, 1)
    else match found.value with
      | .notANumber _ => (1, 0, 1)
      | .infinite negative => (if negative then 2 else 4, 0, 1)
      | .finite negative num den => (3, if negative then -(num : Int) else num, den)
  let (a, b) := (rank a, rank b)
  (compare a.1 b.1).then (compare (a.2.1 * b.2.2) (b.2.1 * a.2.2))

/-- By the names of months, of which three letters count. Other texts come before them. -/
def month (a b : List Char) : Ordering :=
  let names := ["JAN", "FEB", "MAR", "APR", "MAY", "JUN", "JUL", "AUG", "SEP", "OCT", "NOV", "DEC"]
  let number (text : List Char) : Nat :=
    let name := String.ofList (((text.dropWhile isBlank).take 3).map Char.toUpper)
    (names.idxOf? name).elim 0 (· + 1)
  compare (number a) (number b)

/-- The place of a character in names of versions: a tilde before the end, then digits, letters and
the others. -/
def versionRank : Option Char → Nat
  | some '~' => 0
  | none => 1
  | some c => if c.isDigit then 2 else if c.isAlpha then c.toNat + 2 else c.toNat + 258

/-- By pieces without digits and numbers in turn. -/
def pieces : (count : Nat) → List Char → List Char → Ordering
  | 0, _, _ => .eq
  | count + 1, a, b =>
    if a.isEmpty && b.isEmpty then .eq
    else
      let isOther (c : Char) : Bool := !c.isDigit
      let others := words a b
      let (a, b) := (a.dropWhile isOther, b.dropWhile isOther)
      let number (text : List Char) : List Char :=
        (text.takeWhile Char.isDigit).dropWhile (· == '0')
      let (m, n) := (number a, number b)
      let numbers := (compare m.length n.length).then (bytes m n)
      others.then (numbers.then
        (pieces count (a.dropWhile Char.isDigit) (b.dropWhile Char.isDigit)))
where
  /-- What stands before the first digits, one character after another. -/
  words : List Char → List Char → Ordering
    | [], [] => .eq
    | [], b :: _ => if b.isDigit then .eq else compare (versionRank none) (versionRank b)
    | a :: _, [] => if a.isDigit then .eq else compare (versionRank a) (versionRank none)
    | a :: as, b :: bs =>
      if a.isDigit && b.isDigit then .eq
      else (compare (versionRank a) (versionRank b)).then (words as bs)

/-- A name without its endings, each a point, a letter and letters or digits. -/
def withoutEndings (name : List Char) : List Char :=
  name.take (name.length - go name.reverse 0 0)
where
  /-- How many characters at the end belong to endings: those found, and those seen on the way. -/
  go : List Char → (seen found : Nat) → Nat
    | [], _, found => found
    | c :: rest, seen, found =>
      if c.isAlphanum || c == '~' then go rest (seen + 1) found
      else if c == '.' && seen != found then
        match name.drop (rest.length + 1) with
        | first :: _ =>
          if (first.isAlpha || first == '~') && !rest.isEmpty then go rest (seen + 1) (seen + 1)
          else found
        | [] => found
      else found

/-- By versions: names that start with a point come first, endings count only if the rest is the
same. -/
def version (a b : List Char) : Ordering :=
  let count := a.length + b.length + 1
  let rank (text : List Char) : Nat := match text with
    | [] => 0
    | ['.'] => 1
    | ['.', '.'] => 2
    | '.' :: _ => 3
    | _ => 4
  (compare (rank a) (rank b)).then
    ((pieces count (withoutEndings a) (withoutEndings b)).then (pieces count a b))

end Order

/-- How texts are ordered. -/
inductive Kind where
  | text
  | numeric
  | withUnits
  | general
  | month
  | version
  deriving DecidableEq, Repr

/-- The order of a key. -/
structure Style where
  /-- The kinds that are asked for; more than one do not go together. -/
  kinds : List Kind := []
  reverse : Bool := false
  /-- Small letters are taken for capital letters. -/
  folds : Bool := false
  /-- Only blanks, letters and digits count, or only what can be printed. -/
  dictionary : Bool := false
  printable : Bool := false
  random : Bool := false
  /-- Blanks before the start and before the end of the key are skipped. -/
  skipsStart : Bool := false
  skipsEnd : Bool := false
  deriving DecidableEq, Repr

namespace Style

/-- The style asks for nothing but the reverse order. -/
def isPlain (style : Style) : Bool :=
  { style with reverse := false } == ({} : Style)

/-- Adds what a letter asks for; nothing if it asks for nothing. -/
def add? (style : Style) (atStart atEnd : Bool) (letter : Char) : Option Style :=
  let kind (kind : Kind) : Option Style :=
    some { style with kinds := if style.kinds.contains kind then style.kinds else
      style.kinds ++ [kind] }
  match letter with
  | 'b' => some { style with
      skipsStart := style.skipsStart || atStart, skipsEnd := style.skipsEnd || atEnd }
  | 'd' => some { style with dictionary := true, printable := false }
  | 'f' => some { style with folds := true }
  | 'g' => kind .general
  | 'h' => kind .withUnits
  | 'i' => some { style with printable := !style.dictionary }
  | 'M' => kind .month
  | 'n' => kind .numeric
  | 'r' => some { style with reverse := true }
  | 'R' => some { style with random := true }
  | 'V' => kind .version
  | _ => none

/-- The letters of things that do not go together; nothing if all do. -/
def conflict? (style : Style) : Option String :=
  let ignores := style.dictionary || style.printable
  let has (kind : Kind) : Bool := style.kinds.contains kind
  let count := (style.kinds.filter (· != .version)).length +
    (if has .version || style.random || ignores then 1 else 0)
  let letters := [('d', style.dictionary), ('f', style.folds), ('g', has .general),
    ('h', has .withUnits), ('i', style.printable), ('M', has .month), ('n', has .numeric),
    ('R', style.random), ('V', has .version)]
  if 1 < count then some (String.ofList ((letters.filter (·.2)).map (·.1))) else none

/-- The order of two keys. -/
def compare (style : Style) (a b : List Char) : Ordering :=
  let change (text : List Char) : List Char :=
    let text := if style.dictionary then text.filter fun c => Order.isBlank c || c.isAlphanum
      else if style.printable then text.filter fun c => 32 ≤ c.toNat && c.toNat < 127
      else text
    if style.folds then text.map Char.toUpper else text
  let found := match style.kinds with
    | .numeric :: _ => Order.numeric a b
    | .withUnits :: _ => Order.withUnits a b
    | .general :: _ => Order.general a b
    | .month :: _ => Order.month a b
    | .version :: _ => Order.version (change a) (change b)
    | _ => Order.bytes (change a) (change b)
  if style.reverse then found.swap else found

end Style

/-- Where a key starts, and where it ends, if it does not go on to the end of the line. Fields and
characters are counted from zero; the end is behind so many characters of its field, or behind all
of it for zero. -/
structure Key where
  field : Nat := 0
  char : Nat := 0
  stop : Option (Nat × Nat) := none
  style : Style := {}
  deriving Repr

namespace Key

/-- Behind a number of fields. -/
def skipFields (separator : Option Char) : (count : Nat) → List Char → List Char
  | 0, text => text
  | count + 1, text => match separator with
    | some mark => skipFields separator count (text.dropWhile (· != mark)).tail
    | none => skipFields separator count
        ((text.dropWhile Order.isBlank).dropWhile (!Order.isBlank ·))

/-- At the end of the field that starts here. -/
def endOfField (separator : Option Char) (text : List Char) : List Char :=
  match separator with
  | some mark => text.dropWhile (· != mark)
  | none => (text.dropWhile Order.isBlank).dropWhile (!Order.isBlank ·)

/-- The key of a line. -/
def of (key : Key) (separator : Option Char) (line : List Char) : List Char :=
  let skipBlanks (skips : Bool) (text : List Char) : List Char :=
    if skips then text.dropWhile Order.isBlank else text
  let start := (skipBlanks key.style.skipsStart (skipFields separator key.field line)).drop key.char
  match key.stop with
  | none => start
  | some (field, char) =>
    let last := skipFields separator field line
    let behind := if char = 0 then endOfField separator last
      else (skipBlanks key.style.skipsEnd last).drop char
    start.take (start.length - behind.length)

/-- Reads a number of a key: what is wrong with it, if it cannot be read. -/
def readCount (problem : String) (text : List Char) : Except String (Nat × List Char) :=
  let digits := text.takeWhile Char.isDigit
  if digits.isEmpty then .error problem
  else .ok (Numeral.ofDigits 10 digits, text.dropWhile Char.isDigit)

/-- Why a key cannot be read. -/
inductive Problem where
  /-- A number is missing at the start of the text. -/
  | noNumber (problem : String) (text : String)
  | badField (problem : String)

/-- Reads a number of a field or of a character, which must not be zero. -/
def readPlace (problem zero : String) (text : List Char) : Except Problem (Nat × List Char) := do
  match readCount problem text with
  | .error problem => throw (.noNumber problem (String.ofList text))
  | .ok (0, _) => throw (.badField zero)
  | .ok (number, rest) => return (number - 1, rest)

/-- Takes letters off a text into a style. -/
def readLetters (atStart atEnd : Bool) : Style → List Char → Style × List Char
  | style, [] => (style, [])
  | style, letter :: rest => match style.add? atStart atEnd letter with
    | some style => readLetters atStart atEnd style rest
    | none => (style, letter :: rest)

/-- Reads a key: a field and possibly a character with letters, then possibly a comma and the same
for the end. -/
def ofText (text : String) : Except Problem Key := do
  let (field, rest) ← readPlace "invalid number at field start" "field number is zero" text.toList
  let (char, rest) ← match rest with
    | '.' :: rest => readPlace "invalid number after '.'" "character offset is zero" rest
    | rest => pure (0, rest)
  let (style, rest) := readLetters true false {} rest
  let (stop, style, rest) ← match rest with
    | ',' :: rest =>
      let (field, rest) ← readPlace "invalid number after ','" "field number is zero" rest
      let (char, rest) ← match rest with
        | '.' :: rest =>
          match readCount "invalid number after '.'" rest with
          | .ok found => pure found
          | .error problem => throw (.noNumber problem (String.ofList rest))
        | rest => pure (0, rest)
      let (style, rest) := readLetters false true style rest
      pure (some (field, char), style, rest)
    | rest => pure (none, style, rest)
  if !rest.isEmpty then throw (.badField "stray character in field spec")
  return { field, char, stop, style }

end Key

/-- An order of lines. -/
structure LineOrder where
  keys : List Key := []
  separator : Option Char := none
  /-- Lines are in the reverse order if their keys do not tell them apart. -/
  reverse : Bool := false
  /-- Lines that have the same keys count as the same. -/
  byKeysOnly : Bool := false

namespace LineOrder

/-- Two lines by their keys. -/
def compareKeys (order : LineOrder) (a b : List Char) : Ordering :=
  order.keys.foldl (fun found key =>
    found.then (key.style.compare (key.of order.separator a) (key.of order.separator b))) .eq

/-- The order of two lines. -/
def compare (order : LineOrder) (a b : List Char) : Ordering :=
  let found := order.compareKeys a b
  if !order.keys.isEmpty && (found != .eq || order.byKeysOnly) then found
  else
    let whole := Order.bytes a b
    if order.reverse then whole.swap else whole

end LineOrder

end StagedBuild.Script.Tools
