import StagedBuild.Regex.Match
import StagedBuild.Regex.Reader
import StagedBuild.Script.Tools.Order

/-!
# Expressions of words

Calculating with arguments: each is a value, an operator or a bracket. Values are texts, and numbers
where a text looks like one. Operators of one strength are carried out from left to right.
-/

namespace StagedBuild.Script.Tools

open Process

namespace Evaluation

/-- A value. -/
inductive Value where
  | number (value : Int)
  | text (text : String)
  deriving DecidableEq, Repr

namespace Value

/-- A value as a text. -/
def toText : Value → String
  | .number value => toString value
  | .text found => found

/-- A text that is a number as a whole. -/
def ofDigits? (text : String) : Option Int :=
  let (sign, digits) := match text.toList with
    | '-' :: rest => (-1, rest)
    | rest => (1, rest)
  if digits.isEmpty || !digits.all Char.isDigit then none
  else some (sign * Numeral.ofDigits 10 digits)

/-- A value as a number, if it is one. -/
def toInt? : Value → Option Int
  | .number value => some value
  | .text found => ofDigits? found

/-- The value counts as nothing: it is empty or zero. -/
def isNull (value : Value) : Bool :=
  value.toText.isEmpty || value.toInt? == some 0

end Value

/-- The words that are left, and the one before them. -/
structure Words where
  last : String
  rest : List String

/-- The operators from the weakest to the strongest. -/
def strengths : List (List String) :=
  [["|"], ["&"], ["<", "<=", "=", "==", "!=", ">=", ">"], ["+", "-"], ["*", "/", "%"], [":"]]

/-- The result of a comparison. -/
def compared (operator : String) (order : Ordering) : Bool :=
  match operator with
  | "<" => order == .lt
  | "<=" => order != .gt
  | "=" | "==" => order == .eq
  | "!=" => order != .eq
  | ">=" => order != .lt
  | _ => order == .gt

/-- What part of a text from its start matches an expression: the text of its first group if it has
one, or else how long it is. -/
def matched (charset : Text.Charset) (text pattern : String) : Except String Value :=
  match Regex.read { Regex.Dialect.basic with repeatsOnce := false } charset pattern with
  | .error problem => .error problem.message
  | .ok parsed =>
    let search := Regex.searchIn ⟨parsed.expr, charset, false, false⟩ text
    let found := search.at? 0
    if parsed.groups = 0 then .ok (.number (found.elim 0 (·.stop)))
    else .ok (.text (found.elim "" fun found => search.groupText found 1))

/-- Carries out an operator. -/
def combine (charset : Text.Charset) (operator : String) (left right : Value) :
    Except String Value := do
  match operator with
  | "|" => return if !left.isNull then left else if right.isNull then .number 0 else right
  | "&" => return if left.isNull || right.isNull then .number 0 else left
  | ":" => matched charset left.toText right.toText
  | "+" | "-" | "*" | "/" | "%" =>
    let (some a, some b) := (left.toInt?, right.toInt?) | throw "non-integer argument"
    if b = 0 && (operator = "/" || operator = "%") then throw "division by zero"
    return .number (match operator with
      | "+" => a + b
      | "-" => a - b
      | "*" => a * b
      | "/" => a.tdiv b
      | _ => a.tmod b)
  | _ =>
    let textOf (value : Value) : Option Int := Value.ofDigits? value.toText
    let order := match textOf left, textOf right with
      | some a, some b => Ord.compare a b
      | _, _ => Order.bytes left.toText.toList right.toText.toList
    return .number (if compared operator order then 1 else 0)

/-- The characters of a text. -/
def units (charset : Text.Charset) (text : String) : List String :=
  (charset.spelt text.toList).map (·.octets)

/-- A part of a text, from a place that is counted from one. -/
def part (charset : Text.Charset) (text : String) (start length : Value) : Value :=
  match start.toInt?, length.toInt? with
  | some start, some length =>
    if start ≤ 0 || length ≤ 0 then .text ""
    else .text (String.join (((units charset text).drop (start.toNat - 1)).take length.toNat))
  | _, _ => .text ""

/-- The place of the first character of a text that is among others; zero if there is none. -/
def place (charset : Text.Charset) (text chars : String) : Value :=
  let chars := units charset chars
  match (units charset text).findIdx? chars.contains with
  | some i => .number (i + 1 : Nat)
  | none => .number 0

mutual

/-- Reads what operators of a strength, or stronger ones, hold together. What is not `needed` is
read but not carried out. -/
def read (call : Call) (needed : Bool) : (fuel : Nat) → (strength : Nat) → Words →
    Except String (Value × Words)
  | 0, _, _ => .error "syntax error"
  | fuel + 1, strength, words =>
    if strength < strengths.length then do
      let (left, words) ← read call needed fuel (strength + 1) words
      readOn call needed fuel strength left words
    else readWord call needed fuel words
termination_by structural fuel => fuel

/-- Goes on with operators of a strength behind a value. -/
def readOn (call : Call) (needed : Bool) : (fuel : Nat) → (strength : Nat) → Value → Words →
    Except String (Value × Words)
  | 0, _, _, _ => .error "syntax error"
  | fuel + 1, strength, left, words =>
    match words.rest with
    | operator :: rest =>
      if (strengths.getD strength []).contains operator then do
        let isNeeded := match operator with
          | "|" => left.isNull
          | "&" => !left.isNull
          | _ => true
        let (right, words) ← read call (needed && isNeeded) fuel (strength + 1) ⟨operator, rest⟩
        let value ← if needed && (isNeeded || operator = "|" || operator = "&") then
            combine call.charset operator left right
          else pure left
        readOn call needed fuel strength value words
      else .ok (left, words)
    | [] => .ok (left, words)
termination_by structural fuel => fuel

/-- Reads a value: a word, what a bracket holds, or the result of a function. -/
def readWord (call : Call) (needed : Bool) : (fuel : Nat) → Words →
    Except String (Value × Words)
  | 0, _ => .error "syntax error"
  | fuel + 1, words =>
    let one (words : Words) : Except String (String × Words) := do
      let (value, words) ← readWord call needed fuel words
      return (value.toText, words)
    match words.rest with
    | [] => .error ("syntax error: missing argument after " ++ call.quoted words.last)
    | "+" :: text :: rest => .ok (.text text, ⟨text, rest⟩)
    | "+" :: [] => .error ("syntax error: missing argument after " ++ call.quoted "+")
    | "length" :: rest => do
      let (text, words) ← one ⟨"length", rest⟩
      return (.number (units call.charset text).length, words)
    | "match" :: rest => do
      let (text, words) ← one ⟨"match", rest⟩
      let (pattern, words) ← one words
      let value ← if needed then matched call.charset text pattern else pure (.number 0)
      return (value, words)
    | "index" :: rest => do
      let (text, words) ← one ⟨"index", rest⟩
      let (chars, words) ← one words
      return (place call.charset text chars, words)
    | "substr" :: rest => do
      let (text, words) ← one ⟨"substr", rest⟩
      let (start, words) ← readWord call needed fuel words
      let (length, words) ← readWord call needed fuel words
      return (part call.charset text start length, words)
    | "(" :: rest => do
      let (value, words) ← read call needed fuel 0 ⟨"(", rest⟩
      match words.rest with
      | ")" :: rest => return (value, ⟨")", rest⟩)
      | [] => throw ("syntax error: expecting ')' after " ++ call.quoted words.last)
      | other :: _ => throw ("syntax error: expecting ')' instead of " ++ call.quoted other)
    | ")" :: _ => .error "syntax error: unexpected ')'"
    | text :: rest => .ok (.text text, ⟨text, rest⟩)
termination_by structural fuel => fuel

end

/-- Calculates with its arguments. -/
def tool : Tool := fun call => do
  let call := { call with trouble := 2 }
  let args := if call.args.head? = some "--" then call.args.tail else call.args
  if args.isEmpty then return ← call.misused "missing operand"
  match read call true (10 * args.length + 20) 0 ⟨"", args⟩ with
  | .error problem => call.refuse problem
  | .ok (_, ⟨_, extra :: _⟩) =>
    call.refuse ("syntax error: unexpected argument " ++ call.quoted extra)
  | .ok (value, _) =>
    call.print (value.toText ++ "\n")
    return if value.isNull then 1 else 0

end Evaluation

end StagedBuild.Script.Tools
