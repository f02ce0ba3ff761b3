import StagedBuild.FileTree
import StagedBuild.Script.Numeral
import StagedBuild.Script.Print

/-!
# Conditions

The tests that scripts put to texts, numbers and files. The shell and the system read the same
operators, but the system goes by the number of arguments first, and they complain differently.
-/

namespace StagedBuild.Script.Condition

/-- Questions about one argument. -/
inductive Unary where
  | isEmpty
  | isNonempty
  | isTerminal
  /-- A question about a file, by its letter. -/
  | file (letter : Char)
  deriving DecidableEq, Repr

/-- Questions about two arguments. -/
inductive Binary where
  | equal
  | differ
  | before
  | after
  | numbers (compare : Ordering → Bool)
  | sameFile
  /-- The first file has been changed after the second, or before it. -/
  | changedAfter
  | changedBefore

/-- What an argument may stand for in a test. -/
inductive Operator where
  | unary (question : Unary)
  | binary (question : Binary)
  | not
  | both
  | either
  | openParen
  | closeParen

/-- The operator that an argument spells. -/
def operator? (arg : String) : Option Operator :=
  match arg with
  | "!" => some .not
  | "-a" => some .both
  | "-o" => some .either
  | "(" => some .openParen
  | ")" => some .closeParen
  | "=" => some (.binary .equal)
  | "!=" => some (.binary .differ)
  | "<" => some (.binary .before)
  | ">" => some (.binary .after)
  | "-eq" => some (.binary (.numbers (· == .eq)))
  | "-ne" => some (.binary (.numbers (· != .eq)))
  | "-lt" => some (.binary (.numbers (· == .lt)))
  | "-le" => some (.binary (.numbers (· != .gt)))
  | "-gt" => some (.binary (.numbers (· == .gt)))
  | "-ge" => some (.binary (.numbers (· != .lt)))
  | "-nt" => some (.binary .changedAfter)
  | "-ot" => some (.binary .changedBefore)
  | "-ef" => some (.binary .sameFile)
  | "-z" => some (.unary .isEmpty)
  | "-n" => some (.unary .isNonempty)
  | "-t" => some (.unary .isTerminal)
  | _ =>
    match arg.toList with
    | ['-', letter] =>
      if "rwxefdcbpugkshLOGS".toList.contains letter then some (.unary (.file letter)) else none
    | _ => none

/-- What a test can ask about files: a tree, and where relative paths start. -/
structure Files where
  tree : FileTree
  dir : NodeId

namespace Files

/-- What a path denotes. -/
def find? (files : Files) (path : String) (follow : Bool := true) : Option NodeId :=
  (files.tree.find files.dir path follow).toOption

/-- When the content of a file was changed. -/
def changed? (files : Files) (path : String) : Option Int :=
  (files.find? path).map fun id => (files.tree.node id).changed

end Files

/-- The answer to a question about a file. Whoever asks may read and write everything, and run
what anybody may run. -/
def askFile (files : Files) (letter : Char) (path : String) : Bool :=
  match files.find? path (letter != 'h' && letter != 'L') with
  | none => false
  | some id =>
    let node := files.tree.node id
    match letter, node.content with
    | 'f', .file .. | 'f', .program _ => true
    | 'd', .directory .. => true
    | 'c', .device _ => true
    | 'h', .link _ | 'L', .link _ => true
    | 's', .file bytes => !bytes.isEmpty
    | 's', .directory .. | 's', .program _ => true
    | 'x', .directory .. => true
    | 'x', _ => node.rights &&& 73 != 0
    | 'u', _ => node.rights &&& 2048 != 0
    | 'g', _ => node.rights &&& 1024 != 0
    | 'k', _ => node.rights &&& 512 != 0
    | 'e', _ | 'r', _ | 'w', _ | 'O', _ | 'G', _ => true
    | _, _ => false

/-- A number in a test; the complaint if it is none. -/
def number (origin : Origin) (arg : String) : Except String Int :=
  match Numeral.integer? true false arg with
  | some value => .ok value
  | none => .error (match origin with
    | .shell => "Illegal number: " ++ arg
    | .system charset => "invalid integer " ++ Quotation.inQuotes charset arg)

/-- The answer to a question about one argument. -/
def askUnary (origin : Origin) (files : Files) (arg : String) : Unary → Except String Bool
  | .isEmpty => .ok arg.isEmpty
  | .isNonempty => .ok (!arg.isEmpty)
  | .isTerminal => do
    let _ ← number origin arg
    return false
  | .file letter => .ok (askFile files letter arg)

/-- The answer to a question about two arguments. -/
def askBinary (origin : Origin) (files : Files) (left right : String) :
    Binary → Except String Bool
  | .equal => .ok (left == right)
  | .differ => .ok (left != right)
  | .before => .ok (left < right)
  | .after => .ok (right < left)
  | .numbers holds => do
    let a ← number origin left
    let b ← number origin right
    return holds (compare a b)
  | .sameFile =>
    match files.find? left, files.find? right with
    | some a, some b => .ok (a == b)
    | _, _ => .ok false
  | .changedAfter => .ok (isLater (files.changed? left) (files.changed? right))
  | .changedBefore => .ok (isLater (files.changed? right) (files.changed? left))
where
  /-- The first time is after the second. For the system a file that is not there is older than all
  others. -/
  isLater : Option Int → Option Int → Bool
    | some a, some b => b < a
    | some _, none => origin.isSystem
    | none, _ => false

/-- The operator is a question about two arguments. -/
def asBinary? (arg : String) : Option Binary :=
  match operator? arg with
  | some (.binary question) => some question
  | _ => none

/-- What stands at the front of the arguments: nothing, an operator, or an operand. An operator
that would have nothing to ask about is an operand. -/
def front : List String → Option (Option Operator)
  | [] => none
  | arg :: rest =>
    match operator? arg with
    | some (.unary question) =>
      let isOperand := match rest with
        | [] => true
        | [_] => false
        | next :: _ => (asBinary? next).isSome
      some (if isOperand then none else some (.unary question))
    | some .openParen => some (if rest.isEmpty then none else some .openParen)
    | found => some found

/-- What the arguments after the front one start with. -/
def frontOfRest (args : List String) : Option (Option Operator) :=
  front args.tail

mutual

/-- A test as the shell reads it: the answer, and the arguments from the last one that was read. -/
def anyOf (files : Files) : (depth : Nat) → Bool → List String → Except String (Bool × List String)
  | 0, found, args => .ok (found, args)
  | depth + 1, found, args => do
    let (answer, args) ← allOf files depth true args
    match frontOfRest args with
    | some (some .either) => anyOf files depth (found || answer) (args.drop 2)
    | _ => return (found || answer, args)
termination_by structural depth => depth

/-- Tests that all have to hold. -/
def allOf (files : Files) : (depth : Nat) → Bool → List String → Except String (Bool × List String)
  | 0, found, args => .ok (found, args)
  | depth + 1, found, args => do
    let (answer, args) ← single files depth args
    match frontOfRest args with
    | some (some .both) => allOf files depth (found && answer) (args.drop 2)
    | _ => return (found && answer, args)
termination_by structural depth => depth

/-- A test, possibly one that is not to hold. -/
def single (files : Files) : (depth : Nat) → List String → Except String (Bool × List String)
  | 0, args => .ok (false, args)
  | depth + 1, args =>
    match front args with
    | some (some .not) =>
      if args.tail.isEmpty then .ok (true, args)
      else do
        let (answer, args) ← single files depth args.tail
        return (!answer, args)
    | none => .ok (false, args)
    | some (some .openParen) =>
      match front args.tail with
      | some (some .closeParen) => .ok (false, args.tail)
      | _ => do
        let (answer, args) ← anyOf files depth false args.tail
        match front args.tail with
        | some (some .closeParen) => return (answer, args.tail)
        | _ => throw "closing paren expected"
    | some (some (.unary question)) =>
      match args with
      | _ :: arg :: rest => do
        let answer ← askUnary .shell files arg question
        return (answer, arg :: rest)
      | operator :: [] => .error (operator ++ ": argument expected")
      | [] => .ok (false, args)
    | _ =>
      match args with
      | left :: operator :: rest =>
        match asBinary? operator with
        | some question =>
          match rest with
          | right :: _ => do
            let answer ← askBinary .shell files left right question
            return (answer, rest)
          | [] => .error (operator ++ ": argument expected")
        | none => .ok (!left.isEmpty, args)
      | [arg] => .ok (!arg.isEmpty, args)
      | [] => .ok (false, args)
termination_by structural depth => depth

end

/-- The answer of the shell to a test. -/
def askShell (files : Files) (args : List String) : Except String Bool := do
  if args.isEmpty then return false
  let depth := 8 * (args.length + 4)
  match args with
  | [left, operator, right] =>
    match asBinary? operator with
    | some question => askBinary .shell files left right question
    | none => general depth args
  | _ => general depth args
where
  /-- A test without a form that its number of arguments gives it. -/
  general (depth : Nat) (args : List String) : Except String Bool := do
    let inParens := (args.length == 3 || args.length == 4) && args.head? == some "(" &&
      args.getLast? == some ")"
    let (answer, rest) ← anyOf files depth false (if inParens then args.tail.dropLast else args)
    match rest with
    | last :: _ :: _ =>
      throw ((if last.isEmpty then "" else last ++ ": ") ++ "unexpected operator")
    | _ => return answer

/-- Reading a test as the system does: the arguments that are left. -/
abbrev Reading := StateT (List String) (Except String)

/-- Complains that an argument is missing at the end of all of them. -/
def missing {α : Type} (charset : Text.Charset) (all : List String) : Reading α :=
  throw ("missing argument after " ++ Quotation.inQuotes charset (all.getLast?.getD ""))

/-- The next argument is not empty. -/
def nonempty (charset : Text.Charset) (all : List String) : Reading Bool := do
  match ← get with
  | arg :: rest =>
    set rest
    return !arg.isEmpty
  | [] => missing charset all

/-- The argument has the form of a question about one argument. -/
def looksUnary (arg : String) : Bool :=
  match arg.toList with
  | ['-', _] => true
  | _ => false

/-- A question about one argument. -/
def unary (charset : Text.Charset) (files : Files) (all : List String) : Reading Bool := do
  match ← get with
  | operator :: rest =>
    match operator? operator, rest with
    | some (.unary question), arg :: rest =>
      set rest
      askUnary (.system charset) files arg question
    | some (.unary _), [] => missing charset all
    | _, _ => throw (Quotation.inQuotes charset operator ++ ": unary operator expected")
  | [] => missing charset all

/-- A question about two arguments, or about one, or whether an argument is not empty. -/
def leaf (charset : Text.Charset) (files : Files) (all : List String) : Reading Bool := do
  match ← get with
  | left :: operator :: right :: rest =>
    match asBinary? operator with
    | some question =>
      set rest
      askBinary (.system charset) files left right question
    | none => if looksUnary left then unary charset files all else nonempty charset all
  | arg :: _ => if looksUnary arg then unary charset files all else nonempty charset all
  | [] => missing charset all

mutual

/-- A test of so many arguments. -/
def counted (charset : Text.Charset) (files : Files) (all : List String) :
    (depth : Nat) → (count : Nat) → Reading Bool
  | 0, _ => throw "too deep"
  | depth + 1, count => do
    let args ← get
    let negated (count : Nat) : Reading Bool := do
      set args.tail
      return !(← counted charset files all depth count)
    let parenthesised (count : Nat) : Reading Bool := do
      set args.tail
      let answer ← counted charset files all depth count
      modify List.tail
      return answer
    match count, args with
    | 1, _ => nonempty charset all
    | 2, "!" :: _ => negated 1
    | 2, operator :: _ => if looksUnary operator then unary charset files all else missing charset all
    | 3, first :: operator :: last :: _ =>
      if (asBinary? operator).isSome then leaf charset files all
      else if first = "!" then negated 2
      else if first = "(" ∧ last = ")" then parenthesised 1
      else if operator = "-a" ∨ operator = "-o" then anyTerm charset files all depth
      else throw (Quotation.inQuotes charset operator ++ ": binary operator expected")
    | 4, "!" :: _ => negated 3
    | 4, first :: _ :: _ :: last :: _ =>
      if first = "(" ∧ last = ")" then parenthesised 2 else anyTerm charset files all depth
    | _, _ => anyTerm charset files all depth
termination_by structural depth => depth

/-- Terms of which one has to hold. -/
def anyTerm (charset : Text.Charset) (files : Files) (all : List String) : (depth : Nat) → Reading Bool
  | 0 => throw "too deep"
  | depth + 1 => do
    let answer ← allTerms charset files all depth
    match ← get with
    | "-o" :: rest =>
      set rest
      let other ← anyTerm charset files all depth
      return answer || other
    | _ => return answer
termination_by structural depth => depth

/-- Terms that all have to hold. -/
def allTerms (charset : Text.Charset) (files : Files) (all : List String) : (depth : Nat) → Reading Bool
  | 0 => throw "too deep"
  | depth + 1 => do
    let answer ← term charset files all depth
    match ← get with
    | "-a" :: rest =>
      set rest
      let other ← allTerms charset files all depth
      return answer && other
    | _ => return answer
termination_by structural depth => depth

/-- One term. -/
def term (charset : Text.Charset) (files : Files) (all : List String) : (depth : Nat) → Reading Bool
  | 0 => throw "too deep"
  | depth + 1 => do
    match ← get with
    | "!" :: rest =>
      set rest
      return !(← term charset files all depth)
    | "(" :: rest =>
      if rest.isEmpty then missing charset all
      set rest
      let inside := (rest.takeWhile (· != ")")).length
      let answer ← counted charset files all depth (if inside < 4 then inside else rest.length)
      match ← get with
      | ")" :: rest =>
        set rest
        return answer
      | found :: _ => throw (Quotation.inQuotes charset ")" ++ " expected, found " ++ Quotation.inQuotes charset found)
      | [] => throw (Quotation.inQuotes charset ")" ++ " expected")
    | _ => leaf charset files all
termination_by structural depth => depth

end

/-- The answer of the program of the system to a test. -/
def askSystem (charset : Text.Charset) (files : Files) (args : List String) : Except String Bool := do
  if args.isEmpty then return false
  let (answer, rest) ← (counted charset files args (8 * (args.length + 4)) args.length).run args
  match rest with
  | extra :: _ => throw ("extra argument " ++ Quotation.inQuotes charset extra)
  | [] => return answer

end StagedBuild.Script.Condition
