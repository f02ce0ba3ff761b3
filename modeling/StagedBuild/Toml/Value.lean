import StagedBuild.Decimal.Double

/-!
# TOML values

The values a TOML document can hold. A table keeps its keys in the order they were written.
-/

namespace StagedBuild.Toml

/-- A floating point number as written: `digits · 10 ^ exponent`, infinity or not a number. -/
inductive FloatLiteral where
  | finite (negative : Bool) (digits : Nat) (exponent : Int)
  | infinite (negative : Bool)
  | notANumber
  deriving DecidableEq, Repr

namespace FloatLiteral

/-- The number with the fewest digits that round to the same double, without an exponent; nothing
if the number is too large for a double. -/
def text? : FloatLiteral → Option String
  | .finite negative digits exponent =>
    let sign := if negative then "-" else ""
    match Decimal.Double.ofDecimal digits exponent with
    | .zero => some (sign ++ "0.0")
    | .double value =>
      let (digits, exponent) := value.shortest
      some (sign ++ Decimal.positional digits exponent)
    | .overflow => none
  | .infinite negative => some (if negative then "-inf" else "inf")
  | .notANumber => some "NaN"

end FloatLiteral

/-- A TOML value. -/
inductive Value where
  | string (text : String)
  | integer (value : Int)
  /-- A word in the place of an integer that spells none: it lacks digits or has letters among
  them. A document may hold it, but it has no value. -/
  | misspelt (word : String)
  | float (literal : FloatLiteral)
  | boolean (value : Bool)
  | datetime (text : String)
  | array (items : List Value)
  | table (entries : List (String × Value))
  deriving Inhabited

/-- Keys with their values, in the order they were written. -/
abbrev Table := List (String × Value)

end StagedBuild.Toml
