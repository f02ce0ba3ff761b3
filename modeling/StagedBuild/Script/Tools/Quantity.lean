import StagedBuild.Script.Numeral
import StagedBuild.Script.Tools.Options

/-!
# Quantities

Numbers that tools are given, with letters for greater units.
-/

namespace StagedBuild.Script.Tools

open Process

/-- Why a text is no quantity. -/
inductive BadQuantity where
  | noNumber
  | noUnit
  | tooGreat
  deriving DecidableEq, Repr

namespace Quantity

/-- Letters for units with the power of 1024 that they stand for. -/
def powers : List (Char × Nat) :=
  [('k', 1), ('K', 1), ('M', 2), ('m', 2), ('G', 3), ('g', 3), ('T', 4), ('t', 4), ('P', 5),
   ('E', 6), ('Z', 7), ('Y', 8)]

/-- The unit that letters stand for, of those that are `known`. A zero among these lets powers be
followed by `B` for powers of 1000, or by `iB`. -/
def unit? (known : List Char) : List Char → Option Nat
  | [] => some 1
  | letter :: rest =>
    if !known.contains letter then none
    else match powers.lookup letter, rest with
      | some power, [] => some (Nat.pow 1024 power)
      | some power, ['i', 'B'] => if known.contains '0' then some (Nat.pow 1024 power) else none
      | some power, [c] =>
        if known.contains '0' && (c == 'B' || c == 'D') then some (Nat.pow 1000 power) else none
      | none, [] => [('b', 512), ('B', 1024), ('c', 1), ('w', 2)].lookup letter
      | _, _ => none

/-- The units that most tools know. -/
def commonUnits : List Char := "bkKmMGTPEZY0".toList

/-- Reads a quantity that is at most `most`. White space and a plus sign may stand before it. A unit
without a number counts once. -/
def read (known : List Char) (most : Nat) (text : String) : Except BadQuantity Nat := do
  let text := text.toList.dropWhile Numeral.isSpace
  let text := match text with
    | '+' :: rest => rest
    | rest => rest
  let digits := text.takeWhile Char.isDigit
  let letters := text.dropWhile Char.isDigit
  let hasUnit := letters.head?.any known.contains
  if digits.isEmpty && (!hasUnit || letters.head? == some '0') then throw .noNumber
  let number := if digits.isEmpty then 1 else Numeral.ofDigits 10 digits
  let some unit := unit? known letters | throw .noUnit
  let value := number * unit
  if most < value then throw .tooGreat
  return value

/-- The greatest number of 64 bits without a sign. -/
def mostUnsigned : Nat := 18446744073709551615

/-- Reads a quantity of 64 bits, or complains: what it is the number of comes first. -/
def demand (call : Call) (problem text : String) (known : List Char := commonUnits)
    (most : Nat := mostUnsigned) : Act Nat := do
  match read known most text with
  | .ok value => return value
  | .error .tooGreat =>
    call.giveUp (problem ++ ": " ++ call.quoted text ++ ": Value too large for defined data type")
  | .error _ => call.giveUp (problem ++ ": " ++ call.quoted text)

/-- Reads a number of at least `least`, or complains. -/
def demandFrom (call : Call) (problem : String) (least most : Nat) (text : String) : Act Nat := do
  match read [] most text with
  | .ok value =>
    if least ≤ value then return value
    else call.giveUp (problem ++ ": " ++ call.quoted text ++ ": Numerical result out of range")
  | .error .tooGreat =>
    call.giveUp (problem ++ ": " ++ call.quoted text ++ ": Value too large for defined data type")
  | .error _ => call.giveUp (problem ++ ": " ++ call.quoted text)

end Quantity

end StagedBuild.Script.Tools
