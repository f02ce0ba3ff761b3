import StagedBuild.Calendar

/-!
# Formats of moments

Writing moments as a format says: a letter behind a percent sign stands for a part of the moment.
Between them there may be signs for what numbers are filled up with, and how far. A format that goes
wrong is written as it is.
-/

namespace StagedBuild.Calendar

/-- What numbers are filled up with, and the case of letters. -/
structure Filling where
  /-- A zero, a blank, or nothing; by itself each part has its own. -/
  pad : Option (Option Char) := none
  /-- Plus signs stand before years of more than four digits. -/
  plus : Bool := false
  upper : Bool := false
  swapped : Bool := false
  width : Option Nat := none
  colons : Nat := 0

namespace Filling

/-- A number filled up to a width. -/
def number (filling : Filling) (pad : Char) (width : Nat) (value : Int) : String :=
  let digits := toString value.natAbs
  let sign := if value < 0 then "-" else ""
  let fill := String.ofList (List.replicate
    ((filling.width.getD width) - digits.length - sign.length) (((filling.pad.getD pad)).getD ' '))
  match filling.pad with
  | some none => sign ++ digits
  | found => if (found.getD pad) == some ' ' then fill ++ sign ++ digits else sign ++ fill ++ digits

/-- Text filled up to a width, with letters of the case that is asked for. -/
def text (filling : Filling) (text : String) : String :=
  let text := if filling.upper then text.toUpper else if filling.swapped then text.toLower else text
  let fill := (filling.pad.getD (some ' ')).getD ' '
  let missing := (filling.width.getD 0) - text.length
  if filling.pad == some none then text
  else String.ofList (List.replicate missing fill) ++ text

end Filling

/-- The twelve-hour count of an hour. -/
def halfDayHour (hour : Nat) : Nat :=
  if hour % 12 = 0 then 12 else hour % 12

/-- A part of a moment that consists of others: the format that it stands for. -/
def compound? : Char → Option String
  | 'D' | 'x' => some "%m/%d/%y"
  | 'F' => some "%+4Y-%m-%d"
  | 'T' | 'X' => some "%H:%M:%S"
  | 'R' => some "%H:%M"
  | 'r' => some "%I:%M:%S %p"
  | 'c' => some "%a %b %e %H:%M:%S %Y"
  | _ => none

/-- One part of a moment, by its letter. -/
def part? (moment : Moment) (filling : Filling) : Char → Option String :=
  let name (text : String) : Option String :=
    some (({ filling with upper := filling.upper || filling.swapped }).text text)
  fun
  | 'Y' => some (filling.number '0' 4 moment.year)
  | 'C' => some (filling.number '0' 2 (moment.year.fdiv 100))
  | 'y' => some (filling.number '0' 2 (moment.year.fmod 100))
  | 'm' => some (filling.number '0' 2 moment.month)
  | 'd' => some (filling.number '0' 2 moment.day)
  | 'e' => some (filling.number ' ' 2 moment.day)
  | 'H' => some (filling.number '0' 2 moment.hour)
  | 'k' => some (filling.number ' ' 2 moment.hour)
  | 'I' => some (filling.number '0' 2 (halfDayHour moment.hour))
  | 'l' => some (filling.number ' ' 2 (halfDayHour moment.hour))
  | 'M' => some (filling.number '0' 2 moment.minute)
  | 'S' => some (filling.number '0' 2 moment.second)
  | 'N' =>
    let digits := (toString (1000000000 + moment.nanos)).toList.tail
    let width := filling.width.getD 9
    some (String.ofList (digits.take width ++ List.replicate (width - 9) '0'))
  | 's' => some (filling.number '0' 1 moment.seconds)
  | 'j' => some (filling.number '0' 3 (moment.yearDay + 1 : Nat))
  | 'q' => some (filling.number '0' 1 ((moment.month + 2) / 3 : Nat))
  | 'u' => some (filling.number '0' 1 ((moment.weekday + 6) % 7 + 1 : Nat))
  | 'w' => some (filling.number '0' 1 moment.weekday)
  | 'U' => some (filling.number '0' 2 ((moment.yearDay + 7 - moment.weekday) / 7 : Nat))
  | 'W' => some (filling.number '0' 2 ((moment.yearDay + 7 - (moment.weekday + 6) % 7) / 7 : Nat))
  | 'V' => some (filling.number '0' 2 moment.week.2)
  | 'G' => some (filling.number '0' 4 moment.week.1)
  | 'g' => some (filling.number '0' 2 (moment.week.1.fmod 100))
  | 'a' => name ((weekdays.getD moment.weekday "").take 3).toString
  | 'A' => name (weekdays.getD moment.weekday "")
  | 'b' | 'h' => name ((months.getD (moment.month - 1) "").take 3).toString
  | 'B' => name (months.getD (moment.month - 1) "")
  | 'p' => some (filling.text (if moment.hour < 12 then "AM" else "PM"))
  | 'P' => some (filling.text (if moment.hour < 12 then "am" else "pm"))
  | 'Z' => some (filling.text "UTC")
  | 'z' =>
    let zone := ["+0000", "+00:00", "+00:00:00", "+00"].getD filling.colons "+0000"
    some (match filling.pad with
      | some none => "+0"
      | _ => "+" ++ String.ofList (List.replicate (filling.width.getD 0 - zone.length) '0') ++
          (zone.drop 1).toString)
  | 'n' => some (filling.text "\n")
  | 't' => some (filling.text "\t")
  | '%' => some (filling.text "%")
  | _ => none

/-- Reads the signs between a percent sign and its letter. -/
def readFilling (filling : Filling) : List Char → Filling × List Char
  | '-' :: rest => readFilling { filling with pad := some none } rest
  | '_' :: rest => readFilling { filling with pad := some (some ' ') } rest
  | '0' :: rest => readFilling { filling with pad := some (some '0') } rest
  | '+' :: rest => readFilling { filling with pad := some (some '0'), plus := true } rest
  | '^' :: rest => readFilling { filling with upper := true } rest
  | '#' :: rest => readFilling { filling with swapped := true } rest
  | rest =>
    let digits := rest.takeWhile Char.isDigit
    let rest := rest.dropWhile Char.isDigit
    let width := if digits.isEmpty then none else (String.ofList digits).toNat?
    let colons := (rest.takeWhile (· == ':')).length
    let rest := rest.dropWhile (· == ':')
    let rest := match rest with
      | 'E' :: rest | 'O' :: rest => rest
      | rest => rest
    ({ filling with width, colons }, rest)

/-- Writes a moment as a format says; compound parts may be nested `depth` deep. -/
def format (moment : Moment) : (depth : Nat) → (length : Nat) → List Char → String
  | _, _, [] => ""
  | _, 0, _ => ""
  | depth, length + 1, '%' :: rest =>
    let (filling, after) := readFilling {} rest
    match after with
    | [] => String.ofList ('%' :: rest)
    | letter :: after =>
      let shown := match compound? letter, depth with
        | some inner, depth + 1 =>
          filling.text (format moment depth inner.length inner.toList)
        | _, _ => (part? moment filling letter).getD
            (String.ofList ('%' :: rest.take (rest.length - after.length)))
      shown ++ format moment depth length after
  | depth, length + 1, c :: rest => c.toString ++ format moment depth length rest
termination_by depth length => (depth, length)

end StagedBuild.Calendar

/-- The moment in a format. -/
def StagedBuild.Moment.inFormat (moment : StagedBuild.Moment) (format : String) : String :=
  StagedBuild.Calendar.format moment 2 format.length format.toList
