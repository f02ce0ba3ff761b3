import StagedBuild.Decimal.Double

/-!
# Numbers in scripts

Reading the numbers that scripts and their tools are given, and writing numbers as conversions ask
for them. A number is read as far as it goes; what follows it is left over.
-/

namespace StagedBuild.Script.Numeral

/-- White space that may stand before a number. -/
def isSpace (c : Char) : Bool :=
  c == ' ' || (9 ≤ c.toNat && c.toNat ≤ 13)

/-- The value of a digit, in bases of up to sixteen. -/
def digit? (c : Char) : Option Nat :=
  if c.isDigit then some (c.toNat - '0'.toNat)
  else if 'a' ≤ c ∧ c ≤ 'f' then some (c.toNat - 'a'.toNat + 10)
  else if 'A' ≤ c ∧ c ≤ 'F' then some (c.toNat - 'A'.toNat + 10)
  else none

/-- A digit of this base. -/
def isDigitIn (base : Nat) (c : Char) : Bool :=
  (digit? c).any (· < base)

/-- The number that digits of a base stand for. -/
def ofDigits (base : Nat) (digits : List Char) : Nat :=
  digits.foldl (fun value c => value * base + (digit? c).getD 0) 0

/-- A number without a sign, and what follows it. A leading zero makes it octal, and `0x`
hexadecimal, unless it is to be `decimal`. -/
def readNatural? (decimal : Bool) (text : List Char) : Option (Nat × List Char) :=
  let inBase (base : Nat) (text : List Char) : Option (Nat × List Char) :=
    let digits := text.takeWhile (isDigitIn base)
    if digits.isEmpty then none
    else some (ofDigits base digits, text.dropWhile (isDigitIn base))
  if decimal then inBase 10 text
  else match text with
    | '0' :: c :: rest =>
      (if c = 'x' ∨ c = 'X' then inBase 16 rest else none) <|> inBase 8 text
    | '0' :: [] => some (0, [])
    | _ => inBase 10 text

/-- A number with white space and a sign before it, and what follows it; all of the text is left
over if there is no number. -/
def readInteger (decimal : Bool) (text : List Char) : Int × List Char :=
  let found := text.dropWhile isSpace
  let (negative, digits) := match found with
    | '-' :: rest => (true, rest)
    | '+' :: rest => (false, rest)
    | rest => (false, rest)
  match readNatural? decimal digits with
  | some (value, rest) => (if negative then -(value : Int) else value, rest)
  | none => (0, text)

/-- The greatest signed number of 64 bits. -/
def greatest : Int := 9223372036854775807

/-- The least signed number of 64 bits. -/
def least : Int := -9223372036854775808

/-- The number fits into 64 bits with a sign. -/
def fits (value : Int) : Bool :=
  least ≤ value && value ≤ greatest

/-- The number of 64 bits with a sign that is nearest. -/
def clamp (value : Int) : Int :=
  max least (min greatest value)

/-- The whole text is a number of 64 bits, possibly with white space around it. A text without any
number is zero where that is allowed. -/
def integer? (decimal blankIsZero : Bool) (text : String) : Option Int :=
  let (value, rest) := readInteger decimal text.toList
  let unread := rest.length == text.toList.length
  if (rest.all isSpace) && fits value && (!unread || (blankIsZero && text.toList.all isSpace)) then
    some value
  else none

/-- The digits of a number in a base. -/
def digits (base : Nat) (upper : Bool) (value : Nat) : List Char :=
  let found := Nat.toDigits base value
  if upper then found.map Char.toUpper else found

/-- What a conversion asks of the text it makes. -/
structure Shape where
  left : Bool := false
  plus : Bool := false
  blank : Bool := false
  alternate : Bool := false
  zeros : Bool := false
  width : Nat := 0
  precision : Option Nat := none
  deriving DecidableEq, Repr

namespace Shape

/-- Fills text up to the width: with zeros after the sign or the base, or with blanks. -/
def pad (shape : Shape) (zeros : Bool) (before body : List Char) : List Char :=
  let missing := shape.width - (before.length + body.length)
  if shape.left then before ++ body ++ List.replicate missing ' '
  else if zeros then before ++ List.replicate missing '0' ++ body
  else List.replicate missing ' ' ++ before ++ body

/-- Text, cut to the precision. -/
def text (shape : Shape) (text : List Char) : List Char :=
  shape.pad false [] (shape.precision.elim text text.take)

/-- The sign of a number. -/
def sign (shape : Shape) (negative : Bool) : List Char :=
  if negative then ['-'] else if shape.plus then ['+'] else if shape.blank then [' '] else []

/-- Digits with at least as many places as the precision. -/
def withPlaces (shape : Shape) (value : Nat) (digits : List Char) : List Char :=
  match shape.precision with
  | some 0 => if value = 0 then [] else digits
  | some places => List.replicate (places - digits.length) '0' ++ digits
  | none => digits

/-- A number with a sign, in decimal. -/
def signed (shape : Shape) (value : Int) : List Char :=
  let size := value.natAbs
  shape.pad (shape.zeros && shape.precision.isNone) (shape.sign (value < 0))
    (shape.withPlaces size (Numeral.digits 10 false size))

/-- A number without a sign: kind `u`, `o`, `x` or `X`. -/
def unsigned (shape : Shape) (kind : Char) (value : Nat) : List Char :=
  let base := if kind = 'o' then 8 else if kind = 'u' then 10 else 16
  let places := shape.withPlaces value (Numeral.digits base (kind == 'X') value)
  let places := if shape.alternate && kind == 'o' && places.head? != some '0' then '0' :: places
    else places
  let before := if shape.alternate && value != 0 && base == 16 then ['0', kind] else []
  shape.pad (shape.zeros && shape.precision.isNone) before places

end Shape

/-- A number as the tools for fractions know it. -/
inductive Real where
  | finite (negative : Bool) (num den : Nat)
  | infinite (negative : Bool)
  | notANumber (negative : Bool)
  deriving DecidableEq, Repr

/-- A number that was read, and whether the format has it, at least roughly. -/
structure Rounding where
  value : Real
  inRange : Bool := true

/-- A fraction rounded to the nearest number of a format. A small number that loses digits is out of
range. -/
def Rounding.ofFraction (format : Decimal.Format) (negative : Bool) (num den : Nat) : Rounding :=
  if num = 0 then ⟨.finite negative 0 1, true⟩
  else match format.ofFraction num den with
    | .zero => ⟨.finite negative 0 1, false⟩
    | .overflow => ⟨.infinite negative, false⟩
    | .double d =>
      let (up, down) := Decimal.powFraction 2 d.exponent
      let value := d.mantissa * up
      let isSmall := d.mantissa < Nat.pow 2 (format.bits - 1)
      ⟨.finite negative value down, !isSmall || value * den == num * down⟩

/-- A decimal number rounded to the nearest number of a format. -/
def Rounding.ofDecimal (format : Decimal.Format) (negative : Bool) (digits : Nat)
    (exponent : Int) : Rounding :=
  match format.ofDecimal digits exponent with
  | .zero => ⟨.finite negative 0 1, digits = 0⟩
  | .overflow => ⟨.infinite negative, false⟩
  | .double _ =>
    let (up, down) := Decimal.powFraction 10 exponent
    ofFraction format negative (digits * up) down

/-- The text starts so, in small or capital letters; what follows. -/
def dropWord? (word : String) (text : List Char) : Option (List Char) :=
  if (text.take word.length).map Char.toLower == word.toList then some (text.drop word.length)
  else none

/-- The exponent behind a letter, and what follows it. -/
def readExponent (letter : Char) (text : List Char) : Int × List Char :=
  match text with
  | c :: rest =>
    if c.toLower = letter then
      let (negative, places) := match rest with
        | '-' :: rest => (true, rest)
        | '+' :: rest => (false, rest)
        | rest => (false, rest)
      match readNatural? true places with
      | some (value, rest) => (if negative then -(value : Int) else value, rest)
      | none => (0, text)
    else (0, text)
  | [] => (0, text)

/-- Digits of a base with a point among them: the digits before it and behind it, and what follows;
nothing if there are none. -/
def readPointed? (base : Nat) (text : List Char) : Option (List Char × List Char × List Char) :=
  let whole := text.takeWhile (isDigitIn base)
  let rest := text.dropWhile (isDigitIn base)
  let (fraction, rest) := match rest with
    | '.' :: more => (more.takeWhile (isDigitIn base), more.dropWhile (isDigitIn base))
    | _ => ([], rest)
  if whole.isEmpty && fraction.isEmpty then none else some (whole, fraction, rest)

/-- A hexadecimal number with a fraction and an exponent, which counts powers of two. Exponents
beyond all formats are cut. -/
def readHexadecimal? (format : Decimal.Format) (negative : Bool) (text : List Char) :
    Option (Rounding × List Char) := do
  let body ← match text with
    | '0' :: c :: rest => if c = 'x' ∨ c = 'X' then some rest else none
    | _ => none
  let (whole, fraction, rest) ← readPointed? 16 body
  let (exponent, rest) := readExponent 'p' rest
  let exponent := max (-100000) (min 100000 (exponent - 4 * fraction.length))
  let (up, down) := Decimal.powFraction 2 exponent
  return (.ofFraction format negative (ofDigits 16 (whole ++ fraction) * up) down, rest)

/-- A number with a fraction and an exponent, with white space and a sign before it, and what
follows it; all of the text is left over if there is no number. -/
def readReal (format : Decimal.Format) (text : List Char) : Rounding × List Char :=
  let found := text.dropWhile isSpace
  let (negative, body) := match found with
    | '-' :: rest => (true, rest)
    | '+' :: rest => (false, rest)
    | rest => (false, rest)
  match dropWord? "infinity" body <|> dropWord? "inf" body, dropWord? "nan" body with
  | some rest, _ => (⟨.infinite negative, true⟩, rest)
  | none, some rest => (⟨.notANumber negative, true⟩, rest)
  | none, none =>
    match readHexadecimal? format negative body, readPointed? 10 body with
    | some found, _ => found
    | none, none => (⟨.finite false 0 1, true⟩, text)
    | none, some (whole, fraction, rest) =>
      let (exponent, rest) := readExponent 'e' rest
      (.ofDecimal format negative (ofDigits 10 (whole ++ fraction)) (exponent - fraction.length),
        rest)

/-- Digits with a point before the last `places`; at least one digit stands before it. -/
def withPoint (digits : List Char) (places : Nat) (point : Bool) : List Char :=
  let digits := List.replicate (places + 1 - digits.length) '0' ++ digits
  let whole := digits.take (digits.length - places)
  whole ++ (if places = 0 && !point then [] else ['.']) ++ digits.drop (digits.length - places)

/-- The power of ten of the first digit of a positive fraction. -/
def magnitude (num den : Nat) : Int :=
  if den ≤ num then ((Nat.toDigits 10 (num / den)).length : Int) - 1
  else -((Nat.toDigits 10 ((den - 1) / num)).length : Int)

/-- The digits of a positive fraction with one digit before the point and `places` after it, and
the power of ten. -/
def scientific (num den places : Nat) : Nat × Int :=
  if num = 0 then (0, 0)
  else
    let power := magnitude num den
    let (up, down) := Decimal.powFraction 10 ((places : Int) - power)
    let digits := Decimal.roundDiv (num * up) (den * down)
    if digits = Nat.pow 10 (places + 1) then (digits / 10, power + 1) else (digits, power)

/-- An exponent of at least two digits with its sign. -/
def exponentText (letter : Char) (power : Int) : List Char :=
  let digits := Nat.toDigits 10 power.natAbs
  letter :: (if power < 0 then '-' else '+') ::
    (List.replicate (2 - digits.length) '0' ++ digits)

/-- Drops the zeros at the end of a fraction, and the point if nothing is left of it. -/
def dropZeros (text : List Char) : List Char :=
  if text.contains '.' then
    match text.reverse.dropWhile (· == '0') with
    | '.' :: rest => rest.reverse
    | rest => rest.reverse
  else text

/-- The digits of a number to the base sixteen and the power of two that they count: one digit
before the point, of as many bits as are left over when the others have four each. -/
def hexadecimal (format : Decimal.Format) (precision : Option Nat) (alternate : Bool)
    (num den : Nat) : List Char :=
  let behind := (format.bits - 1) / 4 * 4
  let (mantissa, exponent) : Nat × Int := match format.ofFraction num den with
    | .double d => if num = 0 then (0, -behind) else (d.mantissa, d.exponent)
    | _ => (0, -behind)
  let places := precision.getD (behind / 4)
  let kept := min behind (4 * places)
  let digits := Decimal.roundDiv mantissa (Nat.pow 2 (behind - kept))
  let (whole, fraction) := (digits / Nat.pow 2 kept, digits % Nat.pow 2 kept)
  let shown := Nat.toDigits 16 fraction
  let fraction := if kept = 0 then [] else
    List.replicate (kept / 4 - shown.length) '0' ++ shown
  let fraction := match precision with
    | some _ => fraction ++ List.replicate (places - kept / 4) '0'
    | none => (fraction.reverse.dropWhile (· == '0')).reverse
  let power := exponent + behind
  Nat.toDigits 16 whole ++ (if fraction.isEmpty && !alternate then [] else '.' :: fraction) ++
    ['p', if power < 0 then '-' else '+'] ++ Nat.toDigits 10 power.natAbs

/-- A number with a fraction: kind `f`, `e`, `g` or `a`, or one of these in capital letters. -/
def Shape.real (shape : Shape) (format : Decimal.Format) (kind : Char) : Real → List Char
  | .infinite negative => shape.pad false (shape.sign negative) (word "inf".toList)
  | .notANumber negative => shape.pad false (shape.sign negative) (word "nan".toList)
  | .finite negative num den =>
    let places := shape.precision.getD 6
    let letter := if kind.isUpper then 'E' else 'e'
    let exponential (places : Nat) : List Char :=
      let (digits, power) := scientific num den places
      withPoint (Nat.toDigits 10 digits) places shape.alternate ++ exponentText letter power
    let body := match kind.toLower with
      | 'a' => word (hexadecimal format shape.precision shape.alternate num den)
      | 'f' =>
        withPoint (Nat.toDigits 10 (Decimal.roundDiv (num * Nat.pow 10 places) den)) places
          shape.alternate
      | 'e' => exponential places
      | _ =>
        let places := max places 1
        let (_, power) := scientific num den (places - 1)
        if power < -4 ∨ (places : Int) ≤ power then
          let text := exponential (places - 1)
          let mantissa := text.takeWhile (· != letter)
          (if shape.alternate then mantissa else dropZeros mantissa) ++
            text.dropWhile (· != letter)
        else
          let after := ((places : Int) - 1 - power).toNat
          let text := withPoint
            (Nat.toDigits 10 (Decimal.roundDiv (num * Nat.pow 10 after) den)) after shape.alternate
          if shape.alternate then text else dropZeros text
    let mark := if kind.toLower = 'a' then word ['0', 'x'] else []
    shape.pad shape.zeros (shape.sign negative ++ mark) body
where
  /-- A word in the letters that the kind asks for. -/
  word (text : List Char) : List Char :=
    if kind.isUpper then text.map Char.toUpper else text

end StagedBuild.Script.Numeral
