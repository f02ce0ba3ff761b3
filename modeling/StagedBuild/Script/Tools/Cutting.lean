import StagedBuild.Script.Tools.Input
import StagedBuild.Script.Tools.Quantity

/-!
# Cutting lines

Choosing bytes or fields of each line by their numbers.
-/

namespace StagedBuild.Script.Tools

open Process

/-- Numbers from one to another, or to the end. -/
structure Span where
  first : Nat
  last : Option Nat
  deriving DecidableEq, Repr

namespace Span

/-- The number is in the span. -/
def holds (span : Span) (number : Nat) : Bool :=
  span.first ≤ number && span.last.all (number ≤ ·)

/-- Spans in order; those that overlap become one. -/
def merged (spans : List Span) : List Span :=
  let sorted := spans.mergeSort fun a b => a.first ≤ b.first
  (sorted.foldl (fun found span => match found with
    | last :: rest =>
      if last.last.all (span.first ≤ ·) then
        let stop := match last.last, span.last with
          | some a, some b => some (max a b)
          | _, _ => none
        ⟨last.first, stop⟩ :: rest
      else span :: found
    | [] => [span]) []).reverse

/-- What merged spans leave out, from a number on. -/
def gaps : (start : Nat) → List Span → List Span
  | start, [] => [⟨start, none⟩]
  | start, span :: spans =>
    let before : List Span := if start < span.first then [⟨start, some (span.first - 1)⟩] else []
    match span.last with
    | some last => before ++ gaps (last + 1) spans
    | none => before

/-- The words for numbers of fields, or of bytes. -/
structure Words where
  fromOne : String
  badValue : String
  badRange : String
  tooGreat : String
  deriving Repr

/-- The words for fields and for bytes. -/
def fieldWords : Words :=
  ⟨"fields are numbered from 1", "invalid field value ", "invalid field range", "field number "⟩
@[inherit_doc fieldWords] def byteWords : Words :=
  ⟨"byte/character positions are numbered from 1", "invalid byte/character position ",
    "invalid byte or character range", "byte/character offset "⟩

/-- How far a list of spans has been read. -/
structure Reader where
  /-- The number that stands before the hyphen, if there was one. -/
  start : Option (Option Nat) := none
  /-- The number that was read last. -/
  value : Option Nat := none
  spans : List Span := []

/-- The number of a place, which must not be zero. -/
def place (words : Words) (value : Nat) : Except String Nat :=
  if value = 0 then .error words.fromOne else .ok value

/-- The span that ends here. -/
def Reader.finish (words : Words) (reader : Reader) : Except String Reader := do
  let span : Span ← match reader.start, reader.value with
    | none, value => do
      let one ← place words (value.getD 0)
      pure ⟨one, some one⟩
    | some none, none => throw "invalid range with no endpoint: -"
    | some first, none => pure ⟨first.getD 1, none⟩
    | some first, some last =>
      let first := first.getD 1
      if last < first then throw "invalid decreasing range"
      pure ⟨first, some last⟩
  return { spans := reader.spans ++ [span] }

/-- Reads a list of numbers and spans. -/
def readAll (words : Words) (quoted : String → String) :
    (count : Nat) → Reader → List Char → Except String (List Span)
  | 0, reader, _ | _, reader, [] => do return (← reader.finish words).spans
  | count + 1, reader, c :: rest => do
    if c = '-' then
      if reader.start.isSome then throw words.badRange
      if let some value := reader.value then let _ ← place words value
      readAll words quoted count { reader with start := some reader.value, value := none } rest
    else if c = ',' || c = ' ' || c = '\t' then
      readAll words quoted count (← reader.finish words) rest
    else if c.isDigit then
      let digits := (c :: rest).takeWhile Char.isDigit
      let value := Numeral.ofDigits 10 digits
      if Quantity.mostUnsigned ≤ value then
        throw (words.tooGreat ++ quoted (String.ofList digits) ++ " is too large")
      readAll words quoted count { reader with value := some value }
        (rest.drop (digits.length - 1))
    else throw (words.badValue ++ quoted (String.ofList (c :: rest)))

end Span

/-- Which bytes or fields are shown, and what stands between them. -/
structure Choice where
  spans : List Span
  between : Option String

/-- The number is chosen. -/
def Choice.holds (choice : Choice) (number : Nat) : Bool :=
  choice.spans.any (·.holds number)

/-- The chosen bytes of a line; spans of them are kept apart if that is asked for. -/
def Choice.bytes (choice : Choice) (line : String) : String :=
  let starts := choice.spans.map Span.first
  let found := (line.toList.zipIdx 1).filter fun (_, i) => choice.holds i
  match choice.between with
  | none => String.ofList (found.map (·.1))
  | some between => String.join (found.zipIdx.map fun ((c, i), place) =>
      (if place != 0 && starts.contains i then between else "") ++ c.toString)

/-- The chosen fields of a line. A line without a separator is shown whole, or not at all. -/
def Choice.fields? (choice : Choice) (mark : Char) (onlyDivided : Bool) (line : String) :
    Option String :=
  match Text.splitOn mark line.toList with
  | [_] => if onlyDivided then none else some line
  | fields =>
    let found := (fields.zipIdx 1).filter fun (_, i) => choice.holds i
    some ((choice.between.getD mark.toString).intercalate
      (found.map fun (field, _) => String.ofList field))

/-- Shows chosen bytes or fields of each line. -/
def cut : Tool := withOptions ("b,bytes= c,characters= f,fields= d,delimiter= n s,only-delimited " ++
    ",output-delimiter= ,complement z,zero-terminated") fun given files call => do
  let lists := given.filter fun (key, _) => ["b", "c", "f"].contains key
  for (key, value) in given do
    if key = "d" && 1 < value.length then
      call.dismiss "the delimiter must be a single character"
  let (kind, list) ← match lists with
    | [] => call.dismiss "you must specify a list of bytes, characters, or fields"
    | [found] => pure found
    | _ => call.dismiss "only one list may be specified"
  let byFields := kind == "f"
  if !byFields && given.has "d" then
    call.dismiss "an input delimiter may be specified only when operating on fields"
  if !byFields && given.has "s" then
    call.dismiss "suppressing non-delimited lines makes sense\n\tonly when operating on fields"
  let words := if byFields then Span.fieldWords else Span.byteWords
  let spans ← match Span.readAll words call.quoted list.length {} list.toList with
    | .ok spans => pure (Span.merged spans)
    | .error problem => call.dismiss problem
  let spans := if given.has "complement" then Span.gaps 1 spans else spans
  let between := (given.value? "output-delimiter").map fun text =>
    if text.isEmpty then "\x00" else text
  let choice : Choice := ⟨spans, between⟩
  let stop := if given.has "z" then '\x00' else '\n'
  let mark := match given.value? "d" with
    | none => '\t'
    | some text => text.toList.headD '\x00'
  if byFields && mark = stop then
    let read (_ : String) (descriptor : Nat) (_ : Unit) : Act (Progress Unit) := do
      let (lines, problem) ← overLines descriptor stop (fun found lines =>
        return .yield (found ++ lines)) Act.maxRounds "" []
      let text := (withoutStop stop (String.join lines)).1
      match choice.fields? mark (given.has "s") text with
      | some shown => if !lines.isEmpty then call.print (shown.push stop)
      | none => pure ()
      return ((), problem)
    return (← overInputs call {} read (inputs files) ()).2
  let change (_ : Unit) (line : String) : Unit × String :=
    let body := (withoutStop stop line).1
    let shown := if byFields then choice.fields? mark (given.has "s") body
      else some (choice.bytes body)
    ((), shown.elim "" (·.push stop))
  return (← printLines call {} stop change files ()).2

end StagedBuild.Script.Tools
