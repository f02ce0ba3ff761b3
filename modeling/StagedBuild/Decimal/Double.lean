/-!
# Decimal numbers as doubles

A decimal number `digits · 10 ^ exponent` is rounded to the nearest double, ties to even, and a
double is written with the fewest digits that round to it. All arithmetic is exact.
-/

namespace StagedBuild.Decimal

/-- A positive binary number `mantissa · 2 ^ exponent`. -/
structure Double where
  mantissa : Nat
  exponent : Int
  deriving DecidableEq, Repr

/-- A format of binary numbers: how many bits a mantissa has, and the least and the greatest
exponent. Numbers of the least exponent may have fewer bits. -/
structure Format where
  bits : Nat
  least : Int
  greatest : Int
  deriving DecidableEq, Repr

/-- Doubles, and the longer numbers that some tools work with. -/
def Format.double : Format := ⟨53, -1074, 971⟩
@[inherit_doc Format.double] def Format.extended : Format := ⟨64, -16445, 16320⟩

/-- `num / den` rounded to the nearest natural number, a tie to the even one. -/
def roundDiv (num den : Nat) : Nat :=
  let quotient := num / den
  let twice := 2 * (num % den)
  if twice < den then quotient
  else if den < twice then quotient + 1
  else quotient + quotient % 2

/-- The fraction that a power stands for: numerator and denominator. -/
def powFraction (base : Nat) (exponent : Int) : Nat × Nat :=
  if 0 ≤ exponent then (base.pow exponent.toNat, 1) else (1, base.pow (-exponent).toNat)

/-- The result of rounding a number to a format. -/
inductive Rounded where
  | zero
  | double (value : Double)
  | overflow
  deriving DecidableEq, Repr

/-- A positive fraction rounded to the nearest number of a format. -/
def Format.ofFraction (format : Format) (num den : Nat) : Rounded :=
  let k : Int := (Nat.log2 num : Int) - Nat.log2 den
  let (scale, unscale) := powFraction 2 k
  let top : Int := if num * unscale < den * scale then k - 1 else k
  let exponent := max (top + 1 - format.bits) format.least
  let (up, down) := powFraction 2 exponent
  let mantissa := roundDiv (num * down) (den * up)
  if mantissa = 0 then .zero
  else
    let (mantissa, exponent) :=
      if mantissa = Nat.pow 2 format.bits then (mantissa / 2, exponent + 1)
      else (mantissa, exponent)
    if exponent ≤ format.greatest then .double ⟨mantissa, exponent⟩ else .overflow

/-- `digits · 10 ^ exponent` rounded to the nearest number of a format. Numbers that are too large
or too small by far are not looked at closely. -/
def Format.ofDecimal (format : Format) (digits : Nat) (exponent : Int) : Rounded :=
  let size : Int := (toString digits).length + exponent
  if digits = 0 ∨ 3 * size < format.least then .zero
  else if format.greatest + format.bits < 3 * (size - 1) then .overflow
  else
    let (up, down) := powFraction 10 exponent
    format.ofFraction (digits * up) down

namespace Double

/-- The least exponent of a double; smaller numbers have fewer bits. -/
def minExponent : Int := Format.double.least

/-- The least mantissa of a double, of 53 bits, where the exponent is not the least. -/
def leastMantissa : Nat := Nat.pow 2 52

/-- `digits · 10 ^ exponent` rounded to the nearest double. -/
def ofDecimal (digits : Nat) (exponent : Int) : Rounded :=
  Format.double.ofDecimal digits exponent

/-- The multiple of `10 ^ k` for the double, if one of its two neighbours among these multiples
rounds to it: numbers between the midpoints to the neighbouring doubles do, and the midpoints
themselves if the mantissa is even. Of two that do the nearer one is taken, the greater one if
neither is nearer. -/
def onGrid? (d : Double) (k : Int) : Option Nat :=
  let (unitUp, unitDown) := powFraction 2 (d.exponent - 2)
  let (gridUp, gridDown) := powFraction 10 k
  let value := 4 * d.mantissa * unitUp * gridDown
  let grid := gridUp * unitDown
  let below := if d.mantissa = leastMantissa ∧ minExponent < d.exponent then 1 else 2
  let low := (4 * d.mantissa - below) * unitUp * gridDown
  let high := (4 * d.mantissa + 2) * unitUp * gridDown
  let roundsBack (count : Nat) : Bool :=
    let point := count * grid
    (low < point && point < high) || (d.mantissa % 2 == 0 && low ≤ point && point ≤ high)
  let count := value / grid
  let isUpper := roundsBack (count + 1)
  if roundsBack count && !(isUpper && grid ≤ 2 * (value % grid)) then some count
  else if isUpper then some (count + 1)
  else none

/-- The fewest digits that round to the double, and the power of ten they count. -/
def shortest (d : Double) : Nat × Int :=
  let found := (List.range 660).findSome? fun i : Nat =>
    let k : Int := 310 - (i : Int)
    match d.onGrid? k with
    | some (count + 1) => some (count + 1, k)
    | _ => none
  found.getD (d.mantissa, 0)

end Double

/-- `digits · 10 ^ exponent` without an exponent, with at least one digit on both sides of the
point. -/
def positional (digits : Nat) (exponent : Int) : String :=
  let shown := (toString digits).toList
  if 0 ≤ exponent then
    String.ofList (shown ++ List.replicate exponent.toNat '0' ++ ['.', '0'])
  else
    let places := (-exponent).toNat
    let padded := List.replicate (places + 1 - shown.length) '0' ++ shown
    String.ofList
      (padded.take (padded.length - places) ++ '.' :: padded.drop (padded.length - places))

end StagedBuild.Decimal
