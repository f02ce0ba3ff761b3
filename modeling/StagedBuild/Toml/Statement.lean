import StagedBuild.Toml.Quoted
import StagedBuild.Toml.Scalar
import StagedBuild.Toml.Node

/-!
# TOML statements

A document is a list of statements: key and value, table header, or header of one more table of an
array. Values may nest eighty deep, and a dotted key has at most eighty parts. A statement ends
with its line; inside brackets and braces, blanks, newlines and comments may stand anywhere but
inside a dotted key.
-/

namespace StagedBuild.Toml

/-- One statement of a document. -/
inductive Statement where
  /-- Gives a value to a dotted key in the current table. -/
  | assign (path : List String) (value : Value)
  /-- Makes the table at a path the current one. -/
  | header (path : List String)
  /-- Adds a table to the array at a path and makes it the current one. -/
  | arrayHeader (path : List String)

namespace Statement

/-- A character that may stand in a comment. -/
def isCommentChar (c : Char) : Bool :=
  c == '\t' || (0x20 ≤ c.toNat && c.toNat != 0x7F)

/-- Skips blanks, newlines and comments. -/
def gap? : (inComment : Bool) → List Char → Option (List Char)
  | _, [] => some []
  | false, ' ' :: rest | false, '\t' :: rest => gap? false rest
  | _, '\n' :: rest => gap? false rest
  | _, '\r' :: '\n' :: rest => gap? false rest
  | false, '#' :: rest => gap? true rest
  | true, c :: rest => if isCommentChar c then gap? true rest else none
  | false, rest => some rest

/-- Drops spaces and tabs. -/
def dropBlanks (text : List Char) : List Char :=
  text.dropWhile fun c => c == ' ' || c == '\t'

/-- Nothing but a comment is left on the line. -/
def atLineEnd : List Char → Bool
  | [] | '\n' :: _ | '\r' :: '\n' :: _ | '#' :: _ => true
  | _ => false

/-- A character of a key without quotes. -/
def isBareChar (c : Char) : Bool :=
  c.isAlphanum || c == '-' || c == '_'

/-- Reads one part of a key. -/
def keyPart? (text : List Char) : Option (String × List Char) :=
  match Quoted.singleLine? text with
  | some (key, rest) => some (String.ofList key, rest)
  | none =>
    let bare := text.takeWhile isBareChar
    if bare.isEmpty then none else some (String.ofList bare, text.dropWhile isBareChar)

/-- Reads a dotted key of at most `count` parts. -/
def keyParts? : (count : Nat) → List Char → Option (List String × List Char)
  | 0, _ => none
  | count + 1, text => do
    let (part, rest) ← keyPart? text
    match dropBlanks rest with
    | '.' :: more =>
      let (parts, rest) ← keyParts? count (dropBlanks more)
      return (part :: parts, rest)
    | rest => return ([part], rest)

/-- How deep arrays and tables may nest, and how many parts a dotted key may have. -/
def maxDepth : Nat := 80

/-- Reads a dotted key with the blanks after it. -/
def key? (text : List Char) : Option (List String × List Char) :=
  keyParts? maxDepth text

/-- Reads the items of an array up to its closing bracket. -/
def items? (value? : List Char → Option (Value × List Char)) :
    (count : Nat) → List Char → Option (List Value × List Char)
  | 0, _ => none
  | count + 1, text => do
    match ← gap? false text with
    | ']' :: rest => return ([], rest)
    | text =>
      let (value, rest) ← value? text
      match ← gap? false rest with
      | ',' :: rest =>
        let (values, rest) ← items? value? count rest
        return (value :: values, rest)
      | ']' :: rest => return ([value], rest)
      | _ => none

/-- Reads a key, an equals sign and a value. `skip?` drops what may stand around the sign. -/
def assignment? (skip? : List Char → Option (List Char))
    (value? : List Char → Option (Value × List Char)) (text : List Char) :
    Option ((List String × Value) × List Char) := do
  let (path, rest) ← key? text
  match ← skip? rest with
  | '=' :: rest =>
    let (value, rest) ← value? (← skip? rest)
    return ((path, value), rest)
  | _ => none

/-- Reads the fields of an inline table up to its closing brace. -/
def fields? (value? : List Char → Option (Value × List Char)) :
    (count : Nat) → List Char → Option (List (List String × Value) × List Char)
  | 0, _ => none
  | count + 1, text => do
    match ← gap? false text with
    | '}' :: rest => return ([], rest)
    | text =>
      let (field, rest) ← assignment? (gap? false) value? text
      match ← gap? false rest with
      | ',' :: rest =>
        let (fields, rest) ← fields? value? count rest
        return (field :: fields, rest)
      | '}' :: rest => return ([field], rest)
      | _ => none

/-- Reads a value whose arrays and tables nest at most `depth` deep. -/
def value? : (depth : Nat) → List Char → Option (Value × List Char)
  | depth, text =>
    match Quoted.string? text with
    | some (found, rest) => some (.string (String.ofList found), rest)
    | none =>
      match depth, text with
      | depth + 1, '[' :: rest => do
        let (values, rest) ← items? (value? depth) (rest.length + 1) rest
        return (.array values, rest)
      | depth + 1, '\x7b' :: rest => do
        let (fields, rest) ← fields? (value? depth) (rest.length + 1) rest
        let table ← inlineTable? fields
        return (.table table, rest)
      | _, text => Scalar.scalar? text

/-- Reads a header path and the brackets that close it. -/
def headerPath? (closing : List Char) (text : List Char) : Option (List String × List Char) := do
  let (path, rest) ← key? (dropBlanks text)
  if closing.isPrefixOf rest then return (path, rest.drop closing.length) else none

/-- Reads one statement. -/
def statement? : List Char → Option (Statement × List Char)
  | '[' :: '[' :: rest => (headerPath? [']', ']'] rest).map fun (path, rest) =>
      (.arrayHeader path, rest)
  | '[' :: rest => (headerPath? [']'] rest).map fun (path, rest) => (.header path, rest)
  | text =>
      (assignment? (some ∘ dropBlanks) (value? maxDepth) text).map fun ((path, value), rest) =>
        (.assign path value, rest)

/-- Reads at most `count` statements, each on lines of its own. -/
def statements? : (count : Nat) → List Char → Option (List Statement)
  | 0, _ => none
  | count + 1, text => do
    match ← gap? false text with
    | [] => return []
    | text =>
      let (statement, rest) ← statement? text
      let rest := dropBlanks rest
      if atLineEnd rest then
        let statements ← statements? count rest
        return statement :: statements
      else none

end Statement

end StagedBuild.Toml
