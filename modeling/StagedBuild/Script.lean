/-!
# Tool scripts

The command language that wrapper scripts of build tools are written in. A script is read into the
commands defined here; all text in them is octets. Here-documents are kept in a table of their
own, because their text follows the command that names them.
-/

namespace StagedBuild.Script

/-- The end of a value at which a pattern is looked for. -/
inductive Side where
  | front
  | back
  deriving DecidableEq, Repr

/-- How a redirection opens a file. -/
inductive OpenMode where
  | read
  /-- Empties the file first. -/
  | write
  | append
  /-- Empties the file first, even where that is not wanted for files that exist. -/
  | overwrite
  | update
  deriving DecidableEq, Repr

mutual

/-- A piece of a word. What a quoted piece becomes is neither split nor matched with files. -/
inductive Part where
  | text (text : String) (quoted : Bool)
  /-- The value of a parameter. -/
  | parameter (name : String) (use : Use) (quoted : Bool)
  /-- What a command prints. -/
  | output (body : Command) (quoted : Bool)
  /-- The value of an arithmetic expression. -/
  | arithmetic (expression : List Part) (quoted : Bool)

/-- What is done with the value of a parameter. `orNull` extends a rule for parameters that are not
set to those that are null. -/
inductive Use where
  | value
  | length
  /-- The text after the name is no use at all. -/
  | malformed
  | fallback (orNull : Bool) (word : List Part)
  | replacement (orNull : Bool) (word : List Part)
  | assignment (orNull : Bool) (word : List Part)
  | demand (orNull : Bool) (message : List Part)
  /-- Cuts off the shortest or the longest part at one end that a pattern matches. -/
  | trim (side : Side) (longest : Bool) (pattern : List Part)

/-- A redirection of one descriptor. -/
inductive Redirect where
  | file (descriptor : Nat) (mode : OpenMode) (path : List Part)
  /-- Makes the descriptor the same as another, or closes it. -/
  | duplicate (descriptor : Nat) (target : List Part)
  /-- Reads from a here-document, given by its number. -/
  | here (descriptor : Nat) (document : Nat)

/-- A command of a script. Lines are those on which the command starts. -/
inductive Command where
  /-- Does nothing. -/
  | nothing
  /-- Assignments, then the words of a call. -/
  | simple (line : Nat) (assignments words : List (List Part)) (redirects : List Redirect)
  /-- A command with redirections. -/
  | redirected (line : Nat) (body : Command) (redirects : List Redirect)
  /-- One after the other. -/
  | sequence (first second : Command)
  /-- The second only if the first succeeds. -/
  | andThen (first second : Command)
  /-- The second only if the first fails. -/
  | orElse (first second : Command)
  /-- Turns success into failure and failure into success. -/
  | negated (body : Command)
  /-- What the first prints is the input of the second. -/
  | pipe (first second : Command)
  /-- Does not wait for the end. -/
  | background (body : Command)
  /-- Once for each field of the words. -/
  | forEach (line : Nat) (name : String) (words : List (List Part)) (body : Command)
  /-- As long as the condition succeeds, or until it does. -/
  | loop (untilSuccess : Bool) (condition body : Command)
  /-- A choice. -/
  | choice (condition positive negative : Command)
  /-- The body of the first clause with a pattern that matches. -/
  | select (line : Nat) (subject : List Part) (clauses : List Clause)
  /-- Changes of the shell stay inside. -/
  | subshell (line : Nat) (body : Command) (redirects : List Redirect)
  /-- Gives a function its body. -/
  | define (name : String) (body : Command)

/-- A clause of a selection. -/
inductive Clause where
  | mk (patterns : List (List Part)) (body : Command)

end

instance : Inhabited Command := ⟨.nothing⟩

/-- Pieces that stand side by side. -/
abbrev Word := List Part

/-- Where the texts of here-documents are found by their numbers. -/
abbrev Documents := List (Nat × Word)

/-- A character that may start a name. -/
def startsName (c : Char) : Bool :=
  c.isAlpha || c == '_'

/-- A character that may stand in a name. -/
def isNameChar (c : Char) : Bool :=
  c.isAlphanum || c == '_'

/-- The text is a name, such as that of a variable or a function. -/
def isName (text : String) : Bool :=
  match text.toList with
  | [] => false
  | c :: rest => startsName c && rest.all isNameChar

/-- A parameter that is no variable, given by one sign. -/
def isSpecialParameter (c : Char) : Bool :=
  ['@', '*', '#', '?', '-', '$', '!'].contains c || c.isDigit

namespace Word

/-- The text of a word that has no quotes and nothing to replace. -/
def plain? : Word → Option String
  | [] => some ""
  | .text text false :: rest => (plain? rest).map (text ++ ·)
  | _ :: _ => none

/-- The name and the value of a word that is an assignment. -/
def assignment? : Word → Option (String × Word)
  | .text text false :: rest =>
    let name := text.toList.takeWhile (· != '=')
    match text.toList.dropWhile (· != '=') with
    | _ :: value =>
      if isName (String.ofList name) then
        some (String.ofList name,
          if value.isEmpty then rest else .text (String.ofList value) false :: rest)
      else none
    | [] => none
  | _ => none

end Word

end StagedBuild.Script
