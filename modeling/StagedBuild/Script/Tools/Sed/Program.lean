import StagedBuild.Regex.Basic

/-!
# Programs for streams of lines

A program is a list of commands, each for the lines that its addresses select. The commands work on
the line that was read last and on one that is held back.
-/

namespace StagedBuild.Script.Tools.Sed

/-- An expression that selects lines or parts of them: the one that was used last, if it is empty. -/
abbrev Sample := Option Regex

/-- Which lines are selected. -/
inductive Address where
  | line (number : Nat)
  /-- Every so many lines from one on. -/
  | every (first step : Nat)
  | last
  | fitting (sample : Sample)
  /-- So many lines further on, or up to a multiple of a number: only at the end of a range. -/
  | further (count : Nat)
  | multiple (count : Nat)

/-- The case of letters that a replacement asks for. -/
inductive Case where
  | asIs
  | upper
  | lower
  deriving DecidableEq, Repr

/-- A piece of a replacement. -/
inductive Piece where
  | text (text : String)
  | group (number : Nat)
  /-- The case of what follows, and of the next character only. -/
  | case (case : Case)
  | nextCase (case : Case)
  deriving Repr

/-- What files commands write to: the standard output, the error output, or others by their
places. -/
inductive Target where
  | output
  | errors
  | file (place : Nat)
  deriving DecidableEq, Repr

/-- What is replaced by what. -/
structure Substitution where
  sample : Sample
  pieces : List Piece
  /-- The number of the first match that is replaced. -/
  first : Nat := 1
  all : Bool := false
  /-- The line is printed, before it was run as a command or after that. -/
  prints : Bool := false
  printsFirst : Bool := false
  runs : Bool := false
  target : Option Target := none

/-- What a command does. -/
inductive Action where
  /-- Goes on behind the end of a block, at a place of the program, if it is not for this line. -/
  | block (stop : Nat)
  | nothing
  | append (text : String)
  | insert (text : String)
  | change (text : String)
  | branch (label : String)
  | branchIf (label : String)
  | branchUnless (label : String)
  | delete
  | deleteFirst
  | run (command : String)
  | name
  | get
  | getAppend
  | hold
  | holdAppend
  | exchange
  | list (width : Option Nat)
  | next
  | nextAppend
  | print
  | printFirst
  | number
  | quit (status : Nat)
  | quitSilently (status : Nat)
  | readFile (path : String)
  | readLine (path : String)
  | substitute (substitution : Substitution)
  | write (target : Target)
  | writeFirst (target : Target)
  | translate (pairs : List (String × String))
  | clear

/-- A command with its addresses. -/
structure Command where
  first : Option Address := none
  second : Option Address := none
  /-- It is for the lines that are not selected. -/
  negated : Bool := false
  action : Action

/-- A program: its commands, its labels with their places, and the files that it writes to. -/
structure Program where
  commands : Array Command := #[]
  labels : List (String × Nat) := []
  files : List String := []
  /-- Lines are only printed on demand. -/
  silent : Bool := false

end StagedBuild.Script.Tools.Sed
