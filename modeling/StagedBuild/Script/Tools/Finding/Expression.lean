import StagedBuild.FileTree
import StagedBuild.Regex.Match
import StagedBuild.Script.Pattern
import StagedBuild.Script.Tools.Mode

/-!
# Expressions about files

An expression asks something of a file, or does something with it. Its parts are asked one after the
other, as long as the answer is open.
-/

namespace StagedBuild.Script.Tools.Finding

/-- How a number is compared with another: it is more, less, or the same. -/
structure Bound where
  sign : Option Char
  count : Nat

/-- The number is within the bound. -/
def Bound.holds (bound : Bound) (number : Int) : Bool :=
  match bound.sign with
  | some '+' => (bound.count : Int) < number
  | some '-' => number < bound.count
  | _ => number = bound.count

/-- A pattern, for which the case of letters may not count. -/
structure Shape where
  pattern : Pattern
  ignoresCase : Bool

/-- The text has the shape. -/
def Shape.fits (shape : Shape) (text : String) : Bool :=
  if shape.ignoresCase then
    let pattern : Pattern := shape.pattern.map fun glyph =>
      { glyph with char := glyph.char.toLower }
    pattern.accepts text.toLower
  else shape.pattern.accepts text

/-- How rights are compared with others. -/
inductive Wanted where
  | exactly
  | all
  | any
  deriving DecidableEq, Repr

/-- A piece of what is printed of a file: text, or a property by its letter, with signs and widths in
between. -/
inductive Piece where
  | text (text : String)
  | part (leftward zeros octal : Bool) (width : Nat) (most : Option Nat) (letter : Char)
    (detail : Option Char)
  /-- Nothing more is printed. -/
  | stop

/-- Where something is printed: to the standard output, or to a file by its descriptor. -/
abbrev Outlet := Nat

/-- A question about a file. -/
inductive Test where
  | always (answer : Bool)
  | name (shape : Shape)
  | path (shape : Shape)
  | expression (regex : Regex)
  | leadsTo (shape : Shape)
  /-- The kind of a file by its letter, or of what a link leads to. -/
  | kind (letters : List Char) (across : Bool)
  | size (bound : Bound) (unit : Nat)
  | empty
  | newer (time : Int)
  /-- How long ago it was changed, in units of so many seconds. -/
  | age (bound : Bound) (unit : Nat)
  | rights (wanted : Wanted) (rights : Nat)
  | names (bound : Bound)
  | number (bound : Bound)
  | owner (bound : Bound)
  | same (node : NodeId)
  /-- It may be run, if that is asked for. -/
  | allowed (toRun : Bool)

/-- Something that is done with a file. -/
inductive Deed where
  | print (outlet : Outlet) (stop : String)
  | show (outlet : Outlet) (pieces : List Piece)
  | list
  | prune
  | quit
  | delete
  /-- A program is started with the file in place of braces, in its directory or not. -/
  | run (args : List String) (inPlace asks : Bool)
  /-- A program is started with many files at a time; such programs are numbered. -/
  | runMany (number : Nat) (args : List String) (inPlace : Bool)

/-- An expression about files. -/
inductive Expr where
  | test (test : Test)
  | deed (deed : Deed)
  | not (body : Expr)
  | both (first second : Expr)
  | either (first second : Expr)
  | inTurn (first second : Expr)

/-- The expression does something that takes the place of printing. -/
def Expr.acts : Expr → Bool
  | .test _ | .deed .prune | .deed .quit => false
  | .deed _ => true
  | .not body => body.acts
  | .both first second | .either first second | .inTurn first second => first.acts || second.acts

/-- How files are looked for. -/
structure Search where
  expr : Expr := .test (.always true)
  leastDepth : Nat := 0
  mostDepth : Option Nat := none
  /-- Directories come behind what is in them. -/
  deepFirst : Bool := false
  /-- Links are followed that are found, or that arguments name. -/
  follows : Bool := false
  followsFirst : Bool := false
  /-- How many programs are started with many files at a time. -/
  many : Nat := 0

end StagedBuild.Script.Tools.Finding
