import StagedBuild.Script.Numeral
import StagedBuild.Script.Tools.Sed.Program

/-!
# Texts between delimiters

Commands have texts between delimiters. A backslash takes away the meaning of a delimiter, and it
stands before letters and numbers for characters that are hard to write. In an expression a
delimiter in brackets stands for itself.
-/

namespace StagedBuild.Script.Tools.Sed

/-- How far we are in brackets of an expression. -/
inductive Bracket where
  | outside
  /-- Behind the opening bracket, where a closing one stands for itself. -/
  | start
  | inside
  /-- In a name inside of brackets that ends with this sign. -/
  | named (sign : Char)
  deriving DecidableEq, Repr

/-- Adds characters to the first of two texts. -/
def keep (chars : List Char) (found : List Char × List Char) : List Char × List Char :=
  (chars ++ found.1, found.2)

/-- The text before a delimiter, and what follows it; none if there is no delimiter in the line. -/
def delimited? (delimiter : Char) (isExpression : Bool) :
    Bracket → List Char → Option (List Char × List Char)
  | _, [] => none
  | _, '\n' :: _ => none
  | .outside, '\\' :: c :: rest =>
    let kept := if c = 'n' ∧ isExpression then ['\n']
      else if c = delimiter ∧ (isExpression ∨ c ≠ '&') then [c]
      else if c = '\n' then ['\\', '\n']
      else ['\\', c]
    (delimited? delimiter isExpression .outside rest).map (keep kept)
  | .outside, c :: rest =>
    if c = delimiter then some ([], rest)
    else
      let bracket := if isExpression ∧ c = '[' then Bracket.start else .outside
      (delimited? delimiter isExpression bracket rest).map (keep [c])
  | .start, '^' :: ']' :: rest =>
    (delimited? delimiter isExpression .inside rest).map (keep ['^', ']'])
  | .start, '^' :: rest => (delimited? delimiter isExpression .inside rest).map (keep ['^'])
  | .start, ']' :: rest => (delimited? delimiter isExpression .inside rest).map (keep [']'])
  | .start, '\\' :: 'n' :: rest | .inside, '\\' :: 'n' :: rest =>
    (delimited? delimiter isExpression .inside rest).map (keep ['\n'])
  | .start, '\\' :: c :: rest | .inside, '\\' :: c :: rest =>
    if c = delimiter then (delimited? delimiter isExpression .inside rest).map (keep [c])
    else (delimited? delimiter isExpression .inside (c :: rest)).map (keep ['\\'])
  | .start, '[' :: c :: rest | .inside, '[' :: c :: rest =>
    if [':', '.', '='].contains c then
      (delimited? delimiter isExpression (.named c) rest).map (keep ['[', c])
    else (delimited? delimiter isExpression .inside (c :: rest)).map (keep ['['])
  | .inside, ']' :: rest => (delimited? delimiter isExpression .outside rest).map (keep [']'])
  | .start, c :: rest | .inside, c :: rest =>
    (delimited? delimiter isExpression .inside rest).map (keep [c])
  | .named sign, c :: ']' :: rest =>
    if c = sign then (delimited? delimiter isExpression .inside rest).map (keep [c, ']'])
    else (delimited? delimiter isExpression (.named sign) (']' :: rest)).map (keep [c])
  | .named sign, c :: rest =>
    (delimited? delimiter isExpression (.named sign) rest).map (keep [c])
termination_by _ text => text.length

/-- What a letter behind a backslash and some characters behind it stand for: a character, and the
rest. -/
def escape? : List Char → Option (Except String (Char × List Char))
  | 'a' :: rest => some (.ok ('\x07', rest))
  | 'f' :: rest => some (.ok ('\x0c', rest))
  | 'n' :: rest => some (.ok ('\n', rest))
  | 'r' :: rest => some (.ok ('\r', rest))
  | 't' :: rest => some (.ok ('\t', rest))
  | 'v' :: rest => some (.ok ('\x0b', rest))
  | 'c' :: '\\' :: '\\' :: rest => some (.ok ('\x1c', rest))
  | 'c' :: '\\' :: _ => some (.error "recursive escaping after \\c not allowed")
  | 'c' :: c :: rest => some (.ok (Char.ofNat (Nat.xor c.toUpper.toNat 64), rest))
  | 'd' :: rest => (numbered 10 3 rest).map .ok
  | 'o' :: rest => (numbered 8 3 rest).map .ok
  | 'x' :: rest => (numbered 16 2 rest).map .ok
  | _ => none
where
  /-- The character of a number of at most so many digits. -/
  numbered (base most : Nat) (text : List Char) : Option (Char × List Char) :=
    let digits := (text.takeWhile (Numeral.isDigitIn base)).take most
    if digits.isEmpty then none
    else some (Char.ofNat (Numeral.ofDigits base digits % 256), text.drop digits.length)

/-- A text whose escapes have been replaced. Others stay as they are if they are to be `kept`, and
lose their backslash if not. At most `count` steps are taken. -/
def unescaped (kept : Bool) : (count : Nat) → List Char → Except String (List Char)
  | _, [] => .ok []
  | 0, text => .ok text
  | count + 1, '\\' :: rest =>
    match escape? rest with
    | some (.error problem) => .error problem
    | some (.ok (c, rest)) => return c :: (← unescaped kept count rest)
    | none =>
      match rest with
      | c :: rest => do
        let inner ← unescaped kept count rest
        return if kept then '\\' :: c :: inner else c :: inner
      | [] => return if kept then ['\\'] else []
  | count + 1, c :: rest => return c :: (← unescaped kept count rest)

/-- Adds a character of text to the pieces of a replacement. -/
def addChar (c : Char) : List Piece → List Piece
  | .text text :: pieces => .text (c.toString ++ text) :: pieces
  | pieces => .text c.toString :: pieces

/-- The pieces of a replacement. At most `count` steps are taken. -/
def replacement : (count : Nat) → List Char → Except String (List Piece)
  | _, [] => .ok []
  | 0, text => .ok [.text (String.ofList text)]
  | count + 1, '&' :: rest => return .group 0 :: (← replacement count rest)
  | count + 1, '\\' :: rest =>
    match escape? rest, rest with
    | some (.error problem), _ => .error problem
    | some (.ok (c, rest)), _ => return addChar c (← replacement count rest)
    | none, c :: rest => do
      let inner ← replacement count rest
      match c with
      | 'L' => return .case .lower :: inner
      | 'U' => return .case .upper :: inner
      | 'E' => return .case .asIs :: inner
      | 'l' => return .nextCase .lower :: inner
      | 'u' => return .nextCase .upper :: inner
      | _ => return if c.isDigit then .group (c.toNat - 48) :: inner else addChar c inner
    | none, [] => return [.text "\\"]
  | count + 1, c :: rest => return addChar c (← replacement count rest)

/-- The greatest number of a group that pieces refer to. -/
def greatestGroup (pieces : List Piece) : Nat :=
  pieces.foldl (fun found piece => match piece with
    | .group number => max found number
    | _ => found) 0

end StagedBuild.Script.Tools.Sed
