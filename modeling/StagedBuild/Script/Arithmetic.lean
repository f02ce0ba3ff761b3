import StagedBuild.Script
import StagedBuild.Script.Numeral

/-!
# Arithmetic in scripts

Expressions over signed numbers of 64 bits, with the operators of C and variables of the shell.
What is not needed for the value (an operand behind `&&`, one side of a choice) is read but not
evaluated.
-/

namespace StagedBuild.Script.Arithmetic

/-- Why an expression has no value. -/
inductive Problem where
  | expression (problem : String)
  | illegalNumber (text : String)
  | readOnly (name : String)
  deriving DecidableEq, Repr

/-- Operators between two numbers. -/
inductive Binary where
  | times
  | over
  | modulo
  | plus
  | minus
  | shiftLeft
  | shiftRight
  | less
  | atMost
  | greater
  | atLeast
  | equal
  | differ
  | bitAnd
  | bitXor
  | bitOr
  deriving DecidableEq, Repr

/-- How tightly an operator binds: the smaller, the tighter. -/
def Binary.rank : Binary → Nat
  | .times | .over | .modulo => 0
  | .plus | .minus => 1
  | .shiftLeft | .shiftRight => 2
  | .less | .atMost | .greater | .atLeast => 3
  | .equal | .differ => 4
  | .bitAnd => 5
  | .bitXor => 6
  | .bitOr => 7

/-- The number for a truth value. -/
def ofBool (truth : Bool) : Int64 := if truth then 1 else 0

/-- The value of an operator, or why there is none. -/
def Binary.apply (a b : Int64) : Binary → Except Problem Int64
  | .times => .ok (a * b)
  | .over => if b = 0 then .error (.expression "division by zero") else .ok (a / b)
  | .modulo => if b = 0 then .error (.expression "division by zero") else .ok (a % b)
  | .plus => .ok (a + b)
  | .minus => .ok (a - b)
  | .shiftLeft => .ok (a <<< b)
  | .shiftRight => .ok (a >>> b)
  | .less => .ok (ofBool (a < b))
  | .atMost => .ok (ofBool (a ≤ b))
  | .greater => .ok (ofBool (b < a))
  | .atLeast => .ok (ofBool (b ≤ a))
  | .equal => .ok (ofBool (a == b))
  | .differ => .ok (ofBool (a != b))
  | .bitAnd => .ok (a &&& b)
  | .bitXor => .ok (a ^^^ b)
  | .bitOr => .ok (a ||| b)

/-- Tokens of expressions. -/
inductive Token where
  | number (value : Int64)
  | name (name : String)
  | binary (operator : Binary)
  /-- Assigns, possibly what an operator makes of the old value. -/
  | assign (operator : Option Binary)
  | not
  | complement
  | both
  | either
  | question
  | colon
  | openParen
  | closeParen
  | bad
  deriving DecidableEq, Repr

/-- The operators and signs, longer ones first. -/
def signs : List (String × Token) :=
  [("<<=", .assign (some .shiftLeft)), (">>=", .assign (some .shiftRight)),
   ("<<", .binary .shiftLeft), (">>", .binary .shiftRight), ("<=", .binary .atMost),
   (">=", .binary .atLeast), ("==", .binary .equal), ("!=", .binary .differ), ("&&", .both),
   ("||", .either), ("*=", .assign (some .times)), ("/=", .assign (some .over)),
   ("%=", .assign (some .modulo)), ("+=", .assign (some .plus)), ("-=", .assign (some .minus)),
   ("&=", .assign (some .bitAnd)), ("^=", .assign (some .bitXor)),
   ("|=", .assign (some .bitOr)), ("=", .assign none), ("<", .binary .less),
   (">", .binary .greater), ("*", .binary .times), ("/", .binary .over), ("%", .binary .modulo),
   ("+", .binary .plus), ("-", .binary .minus), ("&", .binary .bitAnd), ("^", .binary .bitXor),
   ("|", .binary .bitOr), ("!", .not), ("~", .complement), ("?", .question), (":", .colon),
   ("(", .openParen), (")", .closeParen)]

/-- The tokens of a text; a character that belongs to none is the last one. -/
def tokens : (count : Nat) → List Char → List Token
  | 0, _ | _, [] => []
  | count + 1, c :: rest =>
    if c = ' ' ∨ c = '\t' ∨ c = '\n' then tokens count rest
    else if c.isDigit then
      match Numeral.readNatural? false (c :: rest) with
      | some (value, rest) => .number (Int64.ofInt (Numeral.clamp value)) :: tokens count rest
      | none => [.bad]
    else if startsName c then
      .name (String.ofList (c :: rest.takeWhile isNameChar)) ::
        tokens count (rest.dropWhile isNameChar)
    else match signs.find? fun (sign, _) => sign.toList.isPrefixOf (c :: rest) with
      | some (sign, token) => token :: tokens count ((c :: rest).drop sign.length)
      | none => [.bad]

/-- What an expression can ask about variables. -/
structure Variables where
  value? : String → Option String
  isReadOnly : String → Bool

/-- An evaluation on its way: the tokens to come, and the variables that were assigned. -/
structure State where
  rest : List Token
  assigned : List (String × String) := []

/-- Evaluating an expression. What was assigned before a problem stays assigned. -/
abbrev Act := ExceptT Problem (StateM State)

/-- An expression that is not one. -/
def wrong {α : Type} (problem : String) : Act α := throw (.expression problem)

/-- The next token. -/
def look : Act (Option Token) := return (← get).rest.head?

/-- Passes over a token. -/
def skip : Act Unit := modify fun state => { state with rest := state.rest.tail }

/-- The number that a variable holds; nothing counts as zero. -/
def valueOf (known : Variables) (name : String) : Act Int64 := do
  let text := (((← get).assigned.lookup name) <|> known.value? name).getD ""
  match Numeral.integer? false true text with
  | some value => return Int64.ofInt value
  | none => throw (.illegalNumber text)

/-- Sets a variable to a number. -/
def assign (known : Variables) (name : String) (value : Int64) : Act Unit := do
  if known.isReadOnly name then throw (.readOnly name)
  modify fun state => { state with assigned := (name, toString value.toInt) :: state.assigned }

mutual

/-- An assignment or a choice. -/
def expression (known : Variables) : (depth : Nat) → (evaluate : Bool) → Act Int64
  | 0, _ => wrong "too deep"
  | depth + 1, evaluate => do
    match (← get).rest with
    | .name name :: .assign operator :: rest =>
      modify fun state => { state with rest }
      let value ← expression known depth evaluate
      if !evaluate then return value
      let value ← match operator with
        | none => pure value
        | some operator => do
          let old ← valueOf known name
          liftExcept (operator.apply old value)
      assign known name value
      return value
    | _ => choice known depth evaluate
termination_by structural depth => depth

/-- One of two values, by a condition. -/
def choice (known : Variables) : (depth : Nat) → (evaluate : Bool) → Act Int64
  | 0, _ => wrong "too deep"
  | depth + 1, evaluate => do
    let condition ← disjunction known depth evaluate
    if (← look) != some .question then return condition
    skip
    let positive ← expression known depth (evaluate && condition != 0)
    if (← look) != some .colon then wrong "expecting ':'"
    skip
    let negative ← choice known depth (evaluate && condition == 0)
    return if condition != 0 then positive else negative
termination_by structural depth => depth

/-- Whether one of two values is true. -/
def disjunction (known : Variables) : (depth : Nat) → (evaluate : Bool) → Act Int64
  | 0, _ => wrong "too deep"
  | depth + 1, evaluate => do
    let first ← conjunction known depth evaluate
    if (← look) != some .either then return first
    skip
    let second ← disjunction known depth (evaluate && first == 0)
    return ofBool (first != 0 || second != 0)
termination_by structural depth => depth

/-- Whether both of two values are true. -/
def conjunction (known : Variables) : (depth : Nat) → (evaluate : Bool) → Act Int64
  | 0, _ => wrong "too deep"
  | depth + 1, evaluate => do
    let first ← unary known depth evaluate
    let first ← operations known depth evaluate 8 first
    if (← look) != some .both then return first
    skip
    let second ← conjunction known depth (evaluate && first != 0)
    return ofBool (first != 0 && second != 0)
termination_by structural depth => depth

/-- What operators that bind more tightly than `rank` make of a value, from the left. -/
def operations (known : Variables) :
    (depth : Nat) → (evaluate : Bool) → (rank : Nat) → Int64 → Act Int64
  | 0, _, _, _ => wrong "too deep"
  | depth + 1, evaluate, rank, first => do
    match ← look with
    | some (.binary operator) =>
      if rank ≤ operator.rank then return first
      skip
      let second ← unary known depth evaluate
      let second ← operations known depth evaluate operator.rank second
      let value ← if evaluate then liftExcept (operator.apply first second) else pure second
      operations known depth evaluate rank value
    | _ => return first
termination_by structural depth => depth

/-- A number, a variable, an expression in parentheses, or a sign before one. -/
def unary (known : Variables) : (depth : Nat) → (evaluate : Bool) → Act Int64
  | 0, _ => wrong "too deep"
  | depth + 1, evaluate => do
    let token ← look
    skip
    match token with
    | some (.number value) => return value
    | some (.name name) => if evaluate then valueOf known name else return 0
    | some (.binary .plus) => unary known depth evaluate
    | some (.binary .minus) => return -(← unary known depth evaluate)
    | some .not => return ofBool ((← unary known depth evaluate) == 0)
    | some .complement => return ~~~(← unary known depth evaluate)
    | some .openParen =>
      let value ← expression known depth evaluate
      if (← look) != some .closeParen then wrong "expecting ')'"
      skip
      return value
    | _ => wrong "expecting primary"
termination_by structural depth => depth

end

/-- The value of an expression, and the variables that it assigns, the last one first. -/
def evaluate (known : Variables) (text : String) :
    Except Problem Int64 × List (String × String) :=
  let tokens := tokens (text.length + 1) text.toList
  let act : Act Int64 := do
    let value ← expression known (12 * (tokens.length + 2)) true
    if (← look).isSome then wrong "expecting EOF"
    return value
  let (value, state) := act.run ⟨tokens, []⟩
  (value, state.assigned)

end StagedBuild.Script.Arithmetic
