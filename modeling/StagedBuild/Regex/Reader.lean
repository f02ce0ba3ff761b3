import StagedBuild.Regex.Basic

/-!
# Reading regular expressions

Expressions are written in one of two ways: in the basic one, groups, counts and alternatives are
signs with a backslash, in the extended one without. Tools differ in what they refuse.
-/

namespace StagedBuild.Regex

open StagedBuild.Text

/-- What is wrong with an expression. -/
inductive Problem where
  | badPattern
  | badCollation
  | badClass
  | endsInBackslash
  | badReference
  | openBracket
  | openGroup
  | openCount
  | badCount
  | badRange
  | tooBig
  | badRepeat
  | closedGroup
  deriving DecidableEq, Repr

/-- The text for a problem. -/
def Problem.message : Problem → String
  | badPattern => "Invalid regular expression"
  | badCollation => "Invalid collation character"
  | badClass => "Invalid character class name"
  | endsInBackslash => "Trailing backslash"
  | badReference => "Invalid back reference"
  | openBracket => "Unmatched [, [^, [:, [., or [="
  | openGroup => "Unmatched ( or \\("
  | openCount => "Unmatched \\\x7b"
  | badCount => "Invalid content of \\\x7b\\\x7d"
  | badRange => "Invalid range end"
  | tooBig => "Regular expression too big"
  | badRepeat => "Invalid preceding regular expression"
  | closedGroup => "Unmatched ) or \\)"

/-- What a sign for repeating means that has nothing before it. -/
inductive Bare where
  | refused
  | skipped
  | literal
  deriving DecidableEq, Repr

/-- How expressions are written. -/
structure Dialect where
  extended : Bool
  bare : Bare
  /-- What is repeated may not be repeated again at once. -/
  repeatsOnce : Bool := false
  /-- A count that cannot be read stands for itself. -/
  looseCounts : Bool := false
  /-- A closing sign without an opening one stands for itself. -/
  looseGroups : Bool := false
  deriving Repr

namespace Dialect

/-- The basic and the extended way, as most tools have them. -/
def basic : Dialect := ⟨false, .literal, true, false, false⟩
@[inherit_doc basic] def full : Dialect := ⟨true, .refused, false, false, false⟩

end Dialect

/-- A sign of an expression. -/
inductive Token where
  | char (unit : Spelt)
  | openGroup
  | closeGroup
  | star
  | plus
  | question
  | openCount
  | closeCount
  | bar
  | bracket
  | dot
  | place (place : Place)
  | again (number : Nat)
  | members (inverted : Bool) (items : List Listed)
  | backslash
  | stop
  deriving Repr, DecidableEq

/-- The signs for words, blanks and the others. -/
def wordItems : List Listed := [.char "_", .named "alnum"]
@[inherit_doc wordItems] def spaceItems : List Listed := [.named "space"]

/-- The sign that a backslash and a character are. -/
def escaped (extended : Bool) (unit : Spelt) : Token :=
  match unit.octets.toList with
  | [c] =>
    match c with
    | '<' => .place .wordStart
    | '>' => .place .wordEnd
    | 'b' => .place .wordEdge
    | 'B' => .place .noWordEdge
    | '`' => .place .textStart
    | '\'' => .place .textEnd
    | 'w' => .members false wordItems
    | 'W' => .members true wordItems
    | 's' => .members false spaceItems
    | 'S' => .members true spaceItems
    | _ =>
      if '1' ≤ c && c ≤ '9' then .again (c.toNat - '0'.toNat)
      else if extended then .char unit
      else match c with
        | '|' => .bar
        | '(' => .openGroup
        | ')' => .closeGroup
        | '+' => .plus
        | '?' => .question
        | '\x7b' => .openCount
        | '\x7d' => .closeCount
        | _ => .char unit
  | _ => .char unit

/-- The next sign of an expression, and what follows it. Signs for the start of a line count in the
basic way only where one can start, `atStart`, and those for its end only at an end. -/
def token (extended atStart : Bool) : List Spelt → Token × List Spelt
  | [] => (.stop, [])
  | unit :: rest =>
    match unit.octets.toList with
    | ['\\'] =>
      match rest with
      | [] => (.backslash, [])
      | unit :: rest => (escaped extended unit, rest)
    | ['*'] => (.star, rest)
    | ['.'] => (.dot, rest)
    | ['['] => (.bracket, rest)
    | ['^'] => (if extended || atStart then .place .lineStart else .char unit, rest)
    | ['$'] =>
      let isEnd := match rest with
        | [] => true
        | a :: b :: _ => a.octets == "\\" && (b.octets == ")" || b.octets == "|")
        | _ => false
      (if extended || isEnd then .place .lineEnd else .char unit, rest)
    | [c] =>
      if !extended then (.char unit, rest)
      else match c with
        | '|' => (.bar, rest)
        | '+' => (.plus, rest)
        | '?' => (.question, rest)
        | '(' => (.openGroup, rest)
        | ')' => (.closeGroup, rest)
        | '\x7b' => (.openCount, rest)
        | '\x7d' => (.closeCount, rest)
        | _ => (.char unit, rest)
    | _ => (.char unit, rest)

/-! ### Brackets -/

/-- The name of a class or of a collating element, up to its closing signs. -/
def bracketName (mark : String) : List Spelt → Except Problem (List Spelt × List Spelt)
  | a :: b :: rest =>
    if a.octets == mark && b.octets == "]" then .ok ([], rest)
    else do
      let (name, rest) ← bracketName mark (b :: rest)
      return (a :: name, rest)
  | _ => .error .openBracket

/-- An element of brackets: a character, or a class. -/
inductive Element where
  | char (unit : Spelt)
  | named (name : String)

/-- Reads an element of brackets. A hyphen is one only at their start, at their end, or at the end of
a range. -/
def element (takesHyphen : Bool) : List Spelt → Except Problem (Element × List Spelt)
  | [] => .error .openBracket
  | unit :: rest => do
    match unit.octets, rest with
    | "[", mark :: inside =>
      if mark.octets == ":" then
        let (name, rest) ← bracketName ":" inside
        return (.named (String.join (name.map (·.octets))), rest)
      if mark.octets == "." || mark.octets == "=" then
        let (name, rest) ← bracketName mark.octets inside
        match name with
        | [unit] => return (.char unit, rest)
        | _ => throw .badCollation
      return (.char unit, rest)
    | "-", next :: _ =>
      if takesHyphen || next.octets == "]" then return (.char unit, rest) else throw .badRange
    | _, _ => return (.char unit, rest)

/-- The elements of brackets up to the closing one, which does not count at the start. -/
def elements (charset : Charset) : (count : Nat) → (atStart : Bool) → List Spelt →
    Except Problem (List Listed × List Spelt)
  | 0, _, _ => .error .openBracket
  | count + 1, atStart, text => do
    match text with
    | [] => throw .openBracket
    | unit :: rest =>
      if unit.octets == "]" && !atStart then return ([], rest)
    let (first, rest) ← element atStart text
    let isRange := match rest with
      | dash :: next :: _ => dash.octets == "-" && next.octets != "]"
      | _ => false
    let (item, rest) ← match first, isRange with
      | .named name, false =>
        if (Text.class? name).isNone then throw .badClass
        pure (.named name, rest)
      | .named _, true => throw .badRange
      | .char unit, false => pure (.char unit.octets, rest)
      | .char first, true =>
        let (last, rest) ← element true rest.tail
        match last with
        | .named _ => throw .badRange
        | .char last =>
          match charOf charset first, charOf charset last with
          | some a, some b =>
            if b < a then throw .badRange
            pure (Listed.range a b, rest)
          | _, _ => throw .badCollation
    let (items, rest) ← elements charset count false rest
    return (item :: items, rest)

/-- Reads what stands in brackets. -/
def brackets (charset : Charset) (text : List Spelt) : Except Problem (One × List Spelt) := do
  let (inverted, inside) := match text with
    | unit :: rest => if unit.octets == "^" then (true, rest) else (false, text)
    | [] => (false, [])
  if inside.isEmpty then throw .badPattern
  let (items, rest) ← elements charset (inside.length + 1) true inside
  return (.listed inverted items, rest)

/-! ### Counts -/

/-- The greatest count. -/
def mostRepeats : Nat := 32767

/-- A number of a count, and the sign behind it. -/
inductive Counted where
  | missing
  | number (value : Nat)
  | wrong

/-- Reads a number of a count up to a comma or to the closing sign. -/
def countNumber (extended : Bool) : (count : Nat) → Counted → List Spelt →
    Counted × Token × List Spelt
  | 0, found, text => (found, .stop, text)
  | count + 1, found, text =>
    let (sign, rest) := token extended false text
    match sign with
    | .stop => (.wrong, .stop, rest)
    | .closeCount => (found, .closeCount, rest)
    | .char unit =>
      match unit.octets.toList, found with
      | [','], _ => (found, sign, rest)
      | [c], .missing =>
        countNumber extended count
          (if c.isDigit then .number (c.toNat - '0'.toNat) else .wrong) rest
      | [c], .number value =>
        countNumber extended count
          (if c.isDigit then .number (min (mostRepeats + 1) (value * 10 + (c.toNat - '0'.toNat)))
            else .wrong) rest
      | _, _ => countNumber extended count .wrong rest
    | _ => countNumber extended count .wrong rest

/-- Reads a count behind its opening sign: the least and the greatest number. Nothing if the sign
stands for itself. -/
def readCount (dialect : Dialect) (text : List Spelt) :
    Except Problem (Option (Nat × Option Nat × List Spelt)) := do
  let size := text.length + 1
  let (first, sign, rest) := countNumber dialect.extended size .missing text
  let isComma (sign : Token) : Bool := match sign with
    | .char unit => unit.octets == ","
    | _ => false
  let fail (sign : Token) : Except Problem (Option (Nat × Option Nat × List Spelt)) :=
    if dialect.looseCounts then .ok none
    else .error (if sign = .stop then .openCount else .badCount)
  match first with
  | .wrong => fail sign
  | .missing | .number _ =>
    let least := match first with
      | .number value => value
      | _ => 0
    match first, sign with
    | .missing, .closeCount => throw .badCount
    | _, .closeCount =>
      if mostRepeats < least then throw .tooBig
      return some (least, some least, rest)
    | _, _ =>
      if !isComma sign then return ← fail sign
      let (second, sign, rest) := countNumber dialect.extended size .missing rest
      match second, sign with
      | .wrong, _ => fail sign
      | .missing, .closeCount =>
        if mostRepeats < least then throw .tooBig
        return some (least, none, rest)
      | .number most, .closeCount =>
        if most < least then throw .badCount
        if mostRepeats < most then throw .tooBig
        return some (least, some most, rest)
      | _, _ => throw .badCount

/-! ### Expressions -/

/-- How far an expression has been read. -/
structure Reading where
  rest : List Spelt
  /-- The sign for the start of a line counts here. -/
  atStart : Bool := true
  groups : Nat := 0
  /-- The groups that are complete. -/
  closed : List Nat := []

/-- Reading, until there is a problem. -/
abbrev Reader := StateT Reading (Except Problem)

/-- Expressions as they are written. -/
abbrev Written := Expr One Place

namespace Reader

/-- The next sign. -/
def peek (dialect : Dialect) : Reader (Token × List Spelt) := do
  let reading ← get
  return token dialect.extended reading.atStart reading.rest

/-- Goes on behind a sign. -/
def skip (rest : List Spelt) (atStart : Bool := false) : Reader Unit :=
  modify fun reading => { reading with rest, atStart }

/-- A character. -/
def exactly (unit : Spelt) : Written :=
  .one (.exactly unit.octets)

/-- Adds repetitions to an expression as long as signs ask for them. -/
def repetitions (dialect : Dialect) : (count : Nat) → Written → Reader Written
  | 0, expr => return expr
  | count + 1, expr => do
    let (sign, rest) ← peek dialect
    let found : Option (Nat × Option Nat × List Spelt) ← match sign with
      | .star => pure (some (0, none, rest))
      | .plus => pure (some (1, none, rest))
      | .question => pure (some (0, some 1, rest))
      | .openCount => readCount dialect rest
      | _ => pure none
    match found, sign with
    | some (least, most, rest), _ =>
      skip rest
      if dialect.repeatsOnce then
        let (next, _) ← peek dialect
        if next == .star || next == .openCount then throw Problem.badRepeat
      repetitions dialect count (.many expr least most)
    | none, .openCount =>
      match (← get).rest with
      | unit :: _ =>
        skip rest
        return .pair expr (← repetitions dialect count (exactly unit))
      | [] => return expr
    | none, _ => return expr

mutual

/-- Reads alternatives. -/
def alternatives (dialect : Dialect) (charset : Charset) :
    (depth : Nat) → (inGroup : Bool) → Reader Written
  | 0, _ => throw Problem.tooBig
  | depth + 1, inGroup => do
    let first ← branch dialect charset depth inGroup
    let (sign, rest) ← peek dialect
    if sign != .bar then return first
    skip rest true
    return .either first (← alternatives dialect charset depth inGroup)
termination_by structural depth => depth

/-- Reads what stands between alternatives. -/
def branch (dialect : Dialect) (charset : Charset) :
    (depth : Nat) → (inGroup : Bool) → Reader Written
  | 0, _ => throw Problem.tooBig
  | depth + 1, inGroup => do
    let (sign, _) ← peek dialect
    if sign == .bar || sign == .stop || (inGroup && sign == .closeGroup) then return .empty
    let first ← expression dialect charset depth
    return .pair first (← branch dialect charset depth inGroup)
termination_by structural depth => depth

/-- Reads one expression with its repetitions. -/
def expression (dialect : Dialect) (charset : Charset) : (depth : Nat) → Reader Written
  | 0 => throw Problem.tooBig
  | depth + 1 => do
    let unit := (← get).rest.head?.getD ⟨"", none⟩
    let (sign, rest) ← peek dialect
    let literal (unit : Spelt) : Reader Written := do
      skip rest
      repetitions dialect (rest.length + 1) (exactly unit)
    let next := (← get).rest.tail.head?
    let basicUnit := if dialect.extended || unit.octets != "\\" then unit else next.getD unit
    match sign with
    | .char unit => literal unit
    | .closeCount => literal basicUnit
    | .star | .plus | .question | .openCount =>
      if sign == .openCount && dialect.repeatsOnce then throw Problem.badRepeat
      match dialect.bare with
      | .refused => throw Problem.badRepeat
      | .literal => literal basicUnit
      | .skipped =>
        let atStart := (← get).atStart
        skip rest atStart
        let (sign, _) ← peek dialect
        if sign == .bar || sign == .stop || sign == .closeGroup then return .empty
        expression dialect charset depth
    | .closeGroup =>
      if dialect.looseGroups then literal basicUnit else throw Problem.closedGroup
    | .openGroup =>
      skip rest true
      let number := (← get).groups + 1
      modify fun reading => { reading with groups := number }
      let inside ← alternatives dialect charset depth true
      let (sign, rest) ← peek dialect
      if sign != .closeGroup then throw Problem.openGroup
      skip rest
      modify fun reading => { reading with closed := number :: reading.closed }
      repetitions dialect (rest.length + 1) (.group number inside)
    | .bracket =>
      let (one, rest) ← brackets charset rest
      skip rest
      repetitions dialect (rest.length + 1) (.one one)
    | .dot =>
      skip rest
      repetitions dialect (rest.length + 1) (.one .any)
    | .members inverted items =>
      skip rest
      repetitions dialect (rest.length + 1) (.one (.listed inverted items))
    | .again number =>
      let closed := (← get).closed
      if !closed.contains number then throw Problem.badReference
      skip rest
      repetitions dialect (rest.length + 1) (.again number)
    | .place place =>
      skip rest true
      return .here place
    | .backslash => throw Problem.endsInBackslash
    | .bar | .stop => return .empty
termination_by structural depth => depth

end

end Reader

/-- An expression that was read, and how many groups it has. -/
structure Parsed where
  expr : Written
  groups : Nat
  deriving Repr

/-- Reads an expression. -/
def read (dialect : Dialect) (charset : Charset) (text : String) : Except Problem Parsed := do
  let units := charset.spelt text.toList
  let (expr, reading) ← (Reader.alternatives dialect charset (3 * units.length + 4) false).run
    { rest := units }
  return ⟨expr, reading.groups⟩

end StagedBuild.Regex
