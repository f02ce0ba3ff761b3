import StagedBuild.Calendar

/-!
# Reading moments

Dates and times as people write them: days by numbers or with the names of months, times of day with
or without a zone, days of the week, and distances from the present or from the day that is given.
The parts may stand in any order, each at most once.
-/

namespace StagedBuild.Calendar

/-- A piece of the text of a date. -/
inductive Piece where
  /-- A number with its digits, and its sign. -/
  | number (sign : Option Char) (digits : List Char)
  | word (letters : String)
  | sign (c : Char)
  deriving DecidableEq, Repr

/-- Splits the text of a date; nothing if there is something that no date has. At most `count`
characters are read. -/
def pieces : (count : Nat) → (text : List Char) → Option (List Piece)
  | _, [] => some []
  | 0, _ => none
  | count + 1, c :: rest =>
    if c == ' ' || (9 ≤ c.toNat && c.toNat ≤ 13) then pieces count rest
    else if c.isDigit then
      (pieces count (rest.dropWhile Char.isDigit)).map
        (.number none (c :: rest.takeWhile Char.isDigit) :: ·)
    else if c.isAlpha then
      let isLetter (c : Char) : Bool := c.isAlpha || c == '.'
      let letters := (c :: rest.takeWhile isLetter).filter (· != '.')
      (pieces count (rest.dropWhile isLetter)).map
        (.word (String.ofList (letters.map Char.toLower)) :: ·)
    else if c == '(' then
      match rest.dropWhile (· != ')') with
      | _ :: rest => pieces count rest
      | [] => none
    else if (c == '-' || c == '+') && (rest.dropWhile (· == ' ')).head?.any Char.isDigit then
      let rest := rest.dropWhile (· == ' ')
      (pieces count (rest.dropWhile Char.isDigit)).map
        (.number (some c) (rest.takeWhile Char.isDigit) :: ·)
    else if ",/:.@".contains c then (pieces count rest).map (.sign c :: ·)
    else none

/-- The value of digits. -/
def valueOf (digits : List Char) : Nat :=
  digits.foldl (fun value c => value * 10 + (c.toNat - 48)) 0

/-- A distance in time: in months, in days and in billionths of a second. -/
structure Distance where
  months : Int := 0
  days : Int := 0
  nanos : Int := 0
  deriving DecidableEq, Repr

/-- What has been read of a date. -/
structure Draft where
  date : Option (Int × Nat × Nat) := none
  /-- The year was not given. -/
  lacksYear : Bool := false
  /-- The hours, minutes, seconds and billionths. -/
  time : Option (Nat × Nat × Nat × Nat) := none
  /-- The distance of the zone from universal time, in minutes. -/
  zone : Option Int := none
  /-- A day of the week, and which one of those that follow. -/
  weekday : Option (Nat × Int) := none
  distance : Option Distance := none
  /-- Billionths of a second since the start of 1970. -/
  count : Option Int := none
  deriving Repr

/-- The place of a name, which may be cut down to three letters, in a list. -/
def placeOf? (names : List String) (word : String) : Option Nat :=
  let isFitting (name : String) : Bool :=
    name.toLower == word || (name.toLower.take 3).toString == word ||
      (name == "September" && word == "sept") || (name == "Tuesday" && word == "tues") ||
      (name == "Wednesday" && word == "wednes") ||
      (name == "Thursday" && (word == "thur" || word == "thurs"))
  (names.zipIdx.find? fun (name, _) => isFitting name).map (·.2)

/-- Units of time, with and without a final `s`. -/
def unit? (word : String) : Option Distance :=
  let units : List (String × Distance) :=
    [("year", { months := 12 }), ("month", { months := 1 }), ("fortnight", { days := 14 }),
     ("week", { days := 7 }), ("day", { days := 1 }), ("hour", { nanos := 3600 * billion }),
     ("minute", { nanos := 60 * billion }), ("min", { nanos := 60 * billion }),
     ("second", { nanos := billion }), ("sec", { nanos := billion })]
  let single := if word.endsWith "s" then (word.dropEnd 1).toString else word
  units.lookup word <|> units.lookup single

/-- Words for distances. -/
def ordinal? (word : String) : Option Int :=
  [("last", (-1 : Int)), ("this", 0), ("next", 1), ("first", 1), ("third", 3), ("fourth", 4),
   ("fifth", 5), ("sixth", 6), ("seventh", 7), ("eighth", 8), ("ninth", 9), ("tenth", 10),
   ("eleventh", 11), ("twelfth", 12)].lookup word

/-- Names of zones, with their distance from universal time in minutes. -/
def zones : List (String × Int) :=
  [("utc", 0), ("gmt", 0), ("ut", 0), ("z", 0), ("wet", 0), ("west", 60), ("bst", 60),
   ("cet", 60), ("cest", 120), ("met", 60), ("eet", 120), ("eest", 180), ("msk", 180),
   ("est", -300), ("edt", -240), ("cst", -360), ("cdt", -300), ("mst", -420), ("mdt", -360),
   ("pst", -480), ("pdt", -420), ("jst", 540)] ++
    ("abcdefghiklm".toList.zipIdx.map fun (c, i) => (c.toString, (60 * (i + 1) : Int))) ++
    ("nopqrsuvwxy".toList.zip [1, 2, 3, 4, 5, 6, 8, 9, 10, 11, 12]).map fun (c, hours) =>
      (c.toString, (-60 * hours : Int))

/-- A distance many times. -/
def Distance.times (distance : Distance) (count : Int) : Distance :=
  ⟨distance.months * count, distance.days * count, distance.nanos * count⟩

/-- The year that two digits stand for, or more. -/
def yearOf (digits : List Char) : Int :=
  let value := valueOf digits
  if digits.length ≤ 2 then (if value < 69 then value + 2000 else value + 1900) else value

namespace Draft

/-- Adds a distance. -/
def addDistance (draft : Draft) (more : Distance) : Draft :=
  let found := draft.distance.getD {}
  let sum : Distance :=
    ⟨found.months + more.months, found.days + more.days, found.nanos + more.nanos⟩
  { draft with distance := some sum }

/-- Adds a date; there must be none yet. -/
def addDate (draft : Draft) (year : Int) (month day : Nat) : Option Draft :=
  if draft.date.isSome then none else some { draft with date := some (year, month, day) }

/-- Adds a time of day; there must be none yet. -/
def addTime (draft : Draft) (hour minute : Nat) (second nanos : Nat := 0) : Option Draft :=
  if draft.time.isSome then none
  else some { draft with time := some (hour, minute, second, nanos) }

end Draft

/-- The billionths that the digits of a fraction stand for. -/
def fraction (digits : List Char) : Nat :=
  valueOf ((digits ++ List.replicate 9 '0').take 9)

/-- The distance of a zone from its digits: hours, or hours and minutes. -/
def zoneOf? (sign : Char) (digits : List Char) (minutes : List Char) : Option Int :=
  let value := valueOf digits
  let count := if minutes.isEmpty then
      if digits.length ≤ 2 then value * 60 else value / 100 * 60 + value % 100
    else value * 60 + valueOf minutes
  if 24 * 60 < count then none else some (if sign = '-' then -(count : Int) else count)

/-- A zone behind a time of day, if there is one, and the rest. -/
def readZone (draft : Draft) : List Piece → Option (Draft × List Piece)
  | .number (some sign) digits :: .sign ':' :: .number none minutes :: rest => do
    return ({ draft with zone := some (← zoneOf? sign digits minutes) }, rest)
  | .number (some sign) digits :: rest =>
    match rest with
    | .word _ :: _ => some (draft, .number (some sign) digits :: rest)
    | _ => do return ({ draft with zone := some (← zoneOf? sign digits []) }, rest)
  | rest => some (draft, rest)

/-- The hour of a half of the day. -/
def hourOf? (hour : Nat) (half : String) : Option Nat :=
  if hour < 1 ∨ 12 < hour then none
  else some (hour % 12 + (if half = "pm" then 12 else 0))

/-- A time of day behind its hour: minutes, seconds and a fraction, and the half of the day. -/
def readTime (draft : Draft) (hour : Nat) : List Piece → Option (Draft × List Piece)
  | .sign ':' :: .number none minutes :: rest =>
    let (seconds, nanos, rest) := match rest with
      | .sign ':' :: .number none seconds :: .sign dot :: .number none digits :: rest =>
        if dot = '.' ∨ dot = ',' then (seconds, fraction digits, rest)
        else (seconds, 0, .sign dot :: .number none digits :: rest)
      | .sign ':' :: .number none seconds :: rest => (seconds, 0, rest)
      | rest => ([], 0, rest)
    match rest with
    | .word half :: rest =>
      if half = "am" ∨ half = "pm" then do
        let draft ← draft.addTime (← hourOf? hour half) (valueOf minutes) (valueOf seconds) nanos
        return (draft, rest)
      else do
        return (← draft.addTime hour (valueOf minutes) (valueOf seconds) nanos, .word half :: rest)
    | rest => do
      let draft ← draft.addTime hour (valueOf minutes) (valueOf seconds) nanos
      readZone draft rest
  | _ => none

/-- A number that stands by itself: a year, a date without signs, or a time of day. -/
def readNumber (draft : Draft) (digits : List Char) : Option Draft :=
  let value := valueOf digits
  if draft.date.isSome && draft.lacksYear && draft.distance.isNone &&
      (draft.time.isSome || 2 < digits.length) then
    draft.date.map fun (_, month, day) =>
      { draft with date := some (yearOf digits, month, day), lacksYear := false }
  else if 4 < digits.length then
    let year := digits.take (digits.length - 4)
    draft.addDate (yearOf year) (value / 100 % 100) (value % 100)
  else if digits.length ≤ 2 then draft.addTime value 0
  else draft.addTime (value / 100) (value % 100)

/-- Reads the parts of a date. At most `count` are read. -/
def readParts : (count : Nat) → Draft → List Piece → Option Draft
  | _, draft, [] => some draft
  | 0, _, _ => none
  | count + 1, draft, pieces =>
    match pieces with
    | .sign '@' :: .number sign digits :: rest =>
      let value : Int := if sign = some '-' then -(valueOf digits : Int) else valueOf digits
      let nanos : Int := match rest with
        | .sign '.' :: .number none digits :: _ => fraction digits
        | _ => 0
      let isWhole := match rest with
        | [] | [.sign '.', .number none _] => true
        | _ => false
      if isWhole && draft.count.isNone then
        some { draft with count := some (value * billion + nanos) }
      else none
    | .number none year :: .number (some '-') month :: .number (some '-') day :: rest => do
      let draft ← draft.addDate (yearOf year) (valueOf month) (valueOf day)
      readParts count draft (match rest with
        | .word "t" :: rest => rest
        | rest => rest)
    | .number none hour :: .sign ':' :: rest => do
      let (draft, rest) ← readTime draft (valueOf hour) (.sign ':' :: rest)
      readParts count draft rest
    | .number none a :: .sign '/' :: .number none b :: .sign '/' :: .number none c :: rest => do
      let draft ← if 4 ≤ a.length then draft.addDate (yearOf a) (valueOf b) (valueOf c)
        else draft.addDate (yearOf c) (valueOf a) (valueOf b)
      readParts count draft rest
    | .number none a :: .sign '/' :: .number none b :: rest => do
      let draft ← draft.addDate 0 (valueOf a) (valueOf b)
      readParts count { draft with lacksYear := true } rest
    | .number none digits :: .word word :: rest =>
      if word = "am" ∨ word = "pm" then do
        let draft ← draft.addTime (← hourOf? (valueOf digits) word) 0
        readParts count draft rest
      else match placeOf? months word, unit? word, placeOf? weekdays word with
        | some month, _, _ =>
          match rest with
          | .number (some '-') year :: rest | .sign ',' :: .number none year :: rest => do
            let draft ← draft.addDate (yearOf year) (month + 1) (valueOf digits)
            readParts count draft rest
          | .number none year :: rest =>
            let isYear := match rest with
              | .sign ':' :: _ => false
              | .word half :: _ => half != "am" && half != "pm"
              | _ => true
            if isYear then do
              let draft ← draft.addDate (yearOf year) (month + 1) (valueOf digits)
              readParts count draft rest
            else do
              let draft ← draft.addDate 0 (month + 1) (valueOf digits)
              readParts count { draft with lacksYear := true } (.number none year :: rest)
          | rest => do
            let draft ← draft.addDate 0 (month + 1) (valueOf digits)
            readParts count { draft with lacksYear := true } rest
        | none, some unit, _ =>
          readParts count (draft.addDistance (unit.times (valueOf digits))) rest
        | none, none, some day =>
          if draft.weekday.isSome then none
          else readParts count
            { draft with weekday := some (day, (valueOf digits : Int)) } rest
        | none, none, none => do
          let draft ← readNumber draft digits
          readParts count draft (.word word :: rest)
    | .number (some sign) digits :: .word word :: rest => do
      let value : Int := if sign = '-' then -(valueOf digits : Int) else valueOf digits
      readParts count (draft.addDistance ((← unit? word).times value)) rest
    | .number none digits :: rest => do readParts count (← readNumber draft digits) rest
    | .word word :: rest =>
      match placeOf? months word, placeOf? weekdays word, rest with
      | some month, _, .number none day :: .sign ',' :: .number none year :: rest => do
        let draft ← draft.addDate (yearOf year) (month + 1) (valueOf day)
        readParts count draft rest
      | some month, _, .number none day :: rest => do
        let draft ← draft.addDate 0 (month + 1) (valueOf day)
        readParts count { draft with lacksYear := true } rest
      | some month, _, .number (some '-') day :: .number (some '-') year :: rest => do
        let draft ← draft.addDate (yearOf year) (month + 1) (valueOf day)
        readParts count draft rest
      | some _, _, _ => none
      | none, some day, rest =>
        if draft.weekday.isSome then none
        else readParts count { draft with weekday := some (day, 0) } (match rest with
          | .sign ',' :: rest => rest
          | rest => rest)
      | none, none, rest =>
        match word, ordinal? word, unit? word, zones.lookup word with
        | "now", _, _, _ | "today", _, _, _ => readParts count (draft.addDistance {}) rest
        | "tomorrow", _, _, _ => readParts count (draft.addDistance { days := 1 }) rest
        | "yesterday", _, _, _ => readParts count (draft.addDistance { days := -1 }) rest
        | "noon", _, _, _ => do readParts count (← draft.addTime 12 0) rest
        | "midnight", _, _, _ => do readParts count (← draft.addTime 0 0) rest
        | "ago", _, _, _ =>
          match draft.distance with
          | some distance =>
            readParts count { draft with distance := some (distance.times (-1)) } rest
          | none => none
        | _, some ordinal, _, _ =>
          match rest with
          | .word next :: rest =>
            match unit? next, placeOf? weekdays next with
            | some unit, _ => readParts count (draft.addDistance (unit.times ordinal)) rest
            | none, some day =>
              if draft.weekday.isSome then none
              else readParts count { draft with weekday := some (day, ordinal) } rest
            | none, none => none
          | _ => none
        | _, none, some unit, _ => readParts count (draft.addDistance unit) rest
        | _, none, none, some zone =>
          if draft.zone.isSome then none
          else
            let draft := { draft with zone := some zone }
            match rest with
            | .number (some sign) digits :: rest => do
              let more ← zoneOf? sign digits []
              readParts count { draft with zone := some (zone + more) } rest
            | rest => readParts count draft rest
        | _, _, _, _ => none
    | _ => none

/-- Adds months to a moment; days that a month does not have go on into the next one. -/
def addMonths (moment : Moment) (months : Int) : Moment :=
  let total := moment.year * 12 + (moment.month - 1 : Nat) + months
  { moment with year := total.fdiv 12, month := (total.fmod 12).toNat + 1 }

/-- The moment that a text denotes, in billionths of a second since 1970, when it is `now`. -/
def read? (now : Int) (text : String) : Option Int := do
  let pieces ← pieces (text.length + 1) text.toList
  let draft ← readParts (pieces.length + 1) {} pieces
  if let some count := draft.count then return count
  let present := Moment.ofNanos now
  let moment := match draft.date with
    | some (year, month, day) =>
      { present with year := if draft.lacksYear then present.year else year, month, day }
    | none => present
  let keepsTime := draft.date.isNone && draft.weekday.isNone && draft.time.isNone
  let moment := match draft.time with
    | some (hour, minute, second, nanos) => { moment with hour, minute, second, nanos }
    | none => if keepsTime && draft.zone.isNone then moment
      else { moment with hour := 0, minute := 0, second := 0, nanos := 0 }
  let moment := if moment.second = 60 then { moment with second := 59 } else moment
  if !moment.isValid then none
  let day := moment.weekday
  let days : Int := match draft.weekday with
    | some (target, ordinal) =>
      if draft.date.isSome then 0
      else
        let ordinal := if 0 < ordinal && target != day then ordinal - 1 else ordinal
        ((target + 7 - day) % 7 : Nat) + 7 * ordinal
    | none => 0
  let distance := draft.distance.getD {}
  let moved := addMonths moment distance.months
  return moved.toNanos + ((days + distance.days) * daySeconds - draft.zone.getD 0 * 60) * billion +
    distance.nanos

end StagedBuild.Calendar
