import StagedBuild.Script.Numeral
import StagedBuild.Script.Tools.Options

/-!
# Sequences of numbers

Numbers from a first to a last one with equal steps between them. They are calculated with numbers of
64 bits and an exponent, and whole numbers of any size without rounding.
-/

namespace StagedBuild.Script.Tools

open Process

namespace Sequence

/-- A number with its sign, as a fraction. -/
structure Fraction where
  num : Int
  den : Nat

/-- The end of a sequence, which may be endless. -/
inductive Limit where
  | endless (negative : Bool)
  | at (value : Fraction)

/-- One fraction is less than another. -/
def Fraction.lt (a b : Fraction) : Bool :=
  a.num * b.den < b.num * a.den

/-- The nearest number that is calculated with. -/
def Fraction.rounded (a : Fraction) : Fraction :=
  match (Numeral.Rounding.ofFraction .extended (a.num < 0) a.num.natAbs a.den).value with
  | .finite negative num den => ⟨if negative then -num else num, den⟩
  | _ => a

/-- The number so many steps behind the first. -/
def nth (first step : Fraction) (count : Nat) : Fraction :=
  let way := Fraction.rounded ⟨step.num * count, step.den⟩
  Fraction.rounded ⟨first.num * way.den + way.num * first.den, first.den * way.den⟩

/-- A number that was given: its value, how wide it is written, and how many places it has behind
the point, if that can be told. -/
structure Given where
  value : Numeral.Real
  width : Int := 0
  places : Option Nat := none

/-- The exponent behind a letter. -/
def exponentOf (text : List Char) : Int :=
  (Numeral.readInteger true (text.dropWhile fun c => c != 'e' && c != 'E').tail).1

/-- How wide a decimal number is written without its exponent, and how many places it has. -/
def layout (text : List Char) : Int × Nat :=
  let isMark (c : Char) : Bool := c == 'e' || c == 'E'
  let body := text.takeWhile (!isMark ·)
  let hasPoint := body.contains '.'
  let fraction := (body.dropWhile (· != '.')).tail
  let beforePoint := (body.takeWhile (· != '.')).getLast?
  let pointChange : Int := if !hasPoint then 0
    else if fraction.isEmpty then -1
    else if beforePoint.any Char.isDigit then 0 else 1
  let width : Int := text.length + pointChange
  if !text.any isMark then (width, fraction.length)
  else
    let exponent := exponentOf text
    let places : Int := if exponent < 0 then fraction.length + exponent.natAbs
      else fraction.length - min (fraction.length : Int) exponent
    let width := width - (text.length - body.length : Nat)
    if exponent < 0 then
      let change : Int := if hasPoint then (if fraction.isEmpty then 1 else 0) else 1
      (width + change + exponent.natAbs, places.toNat)
    else
      let change : Int := if hasPoint && places = 0 && !fraction.isEmpty then -1 else 0
      (width + change + (exponent - min (fraction.length : Int) exponent), places.toNat)

/-- Reads a number. -/
def read (call : Call) (text : String) : Act Given := do
  let (found, rest) := Numeral.readReal .extended text.toList
  if rest.length = text.length || !rest.isEmpty then
    call.dismiss ("invalid floating point argument: " ++ call.quoted text)
  if let .notANumber _ := found.value then
    call.dismiss ("invalid " ++ call.quoted "not-a-number" ++ " argument: " ++ call.quoted text)
  let shown := text.toList.dropWhile fun c => Numeral.isSpace c || c == '+'
  let isHexadecimal := shown.any fun c => c == 'x' || c == 'X'
  match found.value, isHexadecimal with
  | .finite .., false =>
    let (width, places) := layout shown
    return ⟨found.value, width, some places⟩
  | value, _ =>
    let isWhole := !shown.any fun c => c == '.' || c == 'p'
    return { value, places := if isWhole then some 0 else none }

/-- How the numbers are written. -/
structure Style where
  before : List Char := []
  shape : Numeral.Shape := {}
  kind : Char := 'f'
  after : List Char := []

/-- A number as it is written. -/
def Style.text (style : Style) (value : Numeral.Real) : String :=
  String.ofList (style.before ++ style.shape.real .extended style.kind value ++ style.after)

/-- Text of a format with doubled percent signs made single, up to a sign that stands alone. -/
def plainPart : List Char → List Char × List Char
  | [] => ([], [])
  | '%' :: '%' :: rest =>
    let (text, rest) := plainPart rest
    ('%' :: text, rest)
  | '%' :: rest => ([], '%' :: rest)
  | c :: rest =>
    let (text, rest) := plainPart rest
    (c :: text, rest)

/-- Reads a format: what is wrong with it comes after its text. -/
def Style.ofFormat (format : String) : Except String Style := do
  let (before, rest) := plainPart format.toList
  match rest with
  | [] => throw " has no % directive"
  | _ :: rest =>
    let isFlag (c : Char) : Bool := "-+#0 '".toList.contains c
    let flags := rest.takeWhile isFlag
    let rest := rest.dropWhile isFlag
    let width := rest.takeWhile Char.isDigit
    let (precision, rest) := match rest.dropWhile Char.isDigit with
      | '.' :: rest => (some (rest.takeWhile Char.isDigit), rest.dropWhile Char.isDigit)
      | rest => (none, rest)
    let rest := if rest.head? = some 'L' then rest.tail else rest
    match rest with
    | [] => throw " ends in %"
    | kind :: rest =>
      if !"efgaEFGA".toList.contains kind then
        throw (" has unknown %" ++ kind.toString ++ " directive")
      let (after, more) := plainPart rest
      if !more.isEmpty then throw " has too many % directives"
      return {
        before, kind, after
        shape := {
          left := flags.contains '-', plus := flags.contains '+', blank := flags.contains ' '
          alternate := flags.contains '#', zeros := flags.contains '0'
          width := Numeral.ofDigits 10 width, precision := precision.map (Numeral.ofDigits 10) } }

/-- The style that the numbers ask for that were given. -/
def Style.ofNumbers (sameWidth : Bool) (first step last : Given) : Style :=
  match first.places, step.places, last.places with
  | some f, some s, some l =>
    let places := max f s
    let precision := some places
    if !sameWidth then { shape := { precision } }
    else
      let point (own : Nat) : Int := if own = 0 && places != 0 then 1 else 0
      let firstWidth := first.width + (places - f : Int) + point f
      let lastWidth := last.width + ((places : Int) - l) + point l -
        (if l != 0 && places = 0 then 1 else 0)
      { shape := { zeros := true, width := (max firstWidth lastWidth).toNat, precision } }
  | _, _, _ => { kind := 'g' }

/-- Prints whole numbers up to the last one, or without an end. -/
def printWhole (call : Call) (between : String) (step : Nat) (last : Option Nat) :
    (rounds : Nat) → (number : Nat) → Act Unit
  | 0, _ => Act.exhaust
  | rounds + 1, number => do
    let count := match last with
      | some last => min 400 ((last - number) / step + 1)
      | none => 400
    let next := number + count * step
    let isLast := last.any (· < next)
    let shown := (List.range count).map fun i => toString (number + i * step)
    call.print (between.intercalate shown ++ (if isLast then "\n" else between))
    if isLast then return else printWhole call between step last rounds next

/-- The number is behind the limit. -/
def isBeyond (down : Bool) (value : Fraction) : Limit → Bool
  | .endless negative => negative != down
  | .at last => if down then value.lt last else last.lt value

/-- Prints the numbers from the first on, after the one that was shown as `shown`. A number just
behind the last one that is written in the same way as it still belongs to the sequence. -/
def printOn (call : Call) (style : Style) (between : String) (down : Bool) (first step : Fraction)
    (last : Limit) : (rounds : Nat) → (count : Nat) → (shown : String) → Act Unit
  | 0, _, _ => Act.exhaust
  | rounds + 1, count, shown => do
    let value := nth first step count
    let text := style.text (.finite (value.num < 0) value.num.natAbs value.den)
    if isBeyond down value last then
      let bare := (text.toList.drop style.before.length).take
        (text.length - style.before.length - style.after.length)
      let isLast := match (Numeral.readReal .extended bare).1.value, last with
        | .finite negative num den, .at last =>
          (if negative then -(num : Int) else num) * last.den == last.num * den
        | _, _ => false
      call.print (if isLast && text != shown then between ++ text ++ "\n" else "\n")
    else
      call.print (between ++ text)
      printOn call style between down first step last rounds (count + 1) text

/-- The value of a finite number. -/
def fraction? : Numeral.Real → Option Fraction
  | .finite negative num den => some ⟨if negative then -num else num, den⟩
  | _ => none

/-- The limit that a number is. -/
def limitOf : Numeral.Real → Limit
  | .finite negative num den => .at ⟨if negative then -num else num, den⟩
  | .infinite negative | .notANumber negative => .endless negative

/-- The number is whole and not negative. -/
def natural? (given : Given) : Option Nat :=
  match given.places, given.value with
  | some 0, .finite false num den => if num % den = 0 then some (num / den) else none
  | _, _ => none

/-- Prints a sequence of numbers. -/
def tool : Tool :=
  let isNumber (arg : String) : Bool := match arg.toList with
    | '-' :: c :: _ => c == '.' || c.isDigit
    | _ => false
  withOptionsFirst "w,equal-width f,format= s,separator=" isNumber fun given numbers call => do
    let between := (given.value? "s").getD "\n"
    if numbers.isEmpty then return ← call.misused "missing operand"
    if let extra :: _ := numbers.drop 3 then
      return ← call.misused ("extra operand " ++ call.quoted extra)
    let asked ← (given.value? "f").mapM fun format => do
      match Style.ofFormat format with
      | .ok style => return style
      | .error problem => call.giveUp ("format " ++ call.quoted format ++ problem)
    let sameWidth := given.has "w"
    if asked.isSome && sameWidth then
      call.dismiss "format string may not be specified when printing equal width strings"
    let isPlain := asked.isNone && !sameWidth && between.length = 1
    let isDigits (text : String) : Bool := !text.isEmpty && text.all Char.isDigit
    let one : Given := ⟨.finite false 1 1, 1, some 0⟩
    let digits := numbers.map fun text => Numeral.ofDigits 10 text.toList
    let whole : Option (Nat × Nat × Option Nat) :=
      if !isPlain || !numbers.all isDigits then none
      else match digits with
        | [last] => some (1, 1, some last)
        | [first, last] => some (first, 1, some last)
        | [first, step, last] =>
          if 0 < step && step ≤ 200 then some (first, step, some last) else none
        | _ => none
    let printAll (first step : Nat) (last : Option Nat) : Act Nat := do
      if last.all (first ≤ ·) then printWhole call between step last Act.maxRounds first
      return 0
    if let some (first, step, last) := whole then
      return ← printAll first step last
    let (first, step, last) ← match numbers with
      | [last] => pure (one, one, ← read call last)
      | [first, last] => pure (← read call first, one, ← read call last)
      | first :: step :: rest => do
        let first ← read call first
        let found ← read call step
        if let .finite _ 0 _ := found.value then
          call.dismiss ("invalid Zero increment value: " ++ call.quoted step)
        pure (first, found, ← read call (rest.headD "1"))
      | [] => pure (one, one, one)
    match isPlain, natural? first, natural? step, last.value with
    | true, some start, some step, .infinite false =>
      if 0 < step && step ≤ 200 then return ← printAll start step none
    | true, some start, some step, .finite false _ _ =>
      if let some stop := natural? last then
        if 0 < step && step ≤ 200 then return ← printAll start step (some stop)
    | _, _, _, _ => pure ()
    let style := asked.getD (Style.ofNumbers sameWidth first step last)
    let limit := limitOf last.value
    match fraction? first.value, fraction? step.value with
    | some start, some way =>
      let down := way.num < 0
      if isBeyond down start limit then return 0
      let shown := style.text first.value
      call.print shown
      printOn call style between down start way limit Act.maxRounds 1 shown
      return 0
    | none, some _ =>
      let down := match step.value with
        | .finite negative _ _ | .infinite negative | .notANumber negative => negative
      let isInside := match first.value, limit with
        | .infinite negative, .endless other => negative == other || negative != down
        | .infinite negative, .at _ => negative != down
        | _, _ => false
      if isInside then printForever call (style.text first.value ++ between) Act.maxRounds
      return 0
    | _, none =>
      call.print (style.text first.value ++ "\n")
      return 0
where
  /-- Prints a text without an end. -/
  printForever (call : Call) (text : String) : (rounds : Nat) → Act Unit
    | 0 => Act.exhaust
    | rounds + 1 => do
      call.print (String.join (List.replicate 400 text))
      printForever call text rounds

end Sequence

end StagedBuild.Script.Tools
