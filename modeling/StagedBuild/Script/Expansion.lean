import StagedBuild.Script.Arithmetic
import StagedBuild.Script.Field
import StagedBuild.Script.Shell

/-!
# Expansion

What the words of a command become: parameters are replaced by their values, substitutions by what
their commands print, and expressions by their numbers. Commands are run by a function given from
outside.
-/

namespace StagedBuild.Script

open Process

/-- Where a tilde stands for a home directory. -/
inductive Tilde where
  | nowhere
  /-- At the start of a word. -/
  | front
  /-- At the start of a value and after its colons. -/
  | assigned
  deriving DecidableEq, Repr

/-- What decides on how a word is expanded. -/
structure Expanding where
  /-- The word becomes fields. -/
  toFields : Bool
  /-- Text that is not quoted is cut at separators, as in the words inside of parameters. -/
  cutsText : Bool := false
  tilde : Tilde := .front
  /-- What a command prints. -/
  capture : Command → Run String

namespace Shell

/-- Arguments side by side, with the first separator between them. -/
def joined (shell : Shell) : String :=
  (shell.separators.toList.head?.elim "" Char.toString).intercalate shell.arguments

/-- Arguments side by side, with their ends marked. -/
def marked (shell : Shell) : String :=
  Piece.mark.toString.intercalate shell.arguments

/-- The value of a parameter, if it is set. -/
def parameter? (shell : Shell) (toFields quoted : Bool) (name : String) : Option String :=
  match name with
  | "#" => some (toString shell.arguments.length)
  | "?" => some (toString shell.status)
  | "$" => some (toString shell.number)
  | "!" => shell.lastStarted.map toString
  | "-" => some (String.ofList shell.options)
  | "0" => some shell.name
  | "@" => some (if toFields then shell.marked else shell.joined)
  | "*" => some (if toFields && !quoted then shell.marked else shell.joined)
  | _ =>
    match name.toNat? with
    | some number => if number = 0 then some shell.name else shell.arguments[number - 1]?
    | none => shell.valueOf? name

/-- The home directory of a user; of ours, if no name is given. -/
def home? (shell : Shell) (user : String) : Option String :=
  if user.isEmpty then shell.valueOf? "HOME"
  else if user = "root" then some "/root"
  else none

end Shell

namespace Expanding

/-- The pieces of text that is not quoted. -/
def plain (expanding : Expanding) (text : List Char) : List Piece :=
  if expanding.cutsText then .seam false :: Piece.ofText false true (String.ofList text)
  else Piece.ofText false false (String.ofList text)

/-- The pieces of text after a tilde: the home directory, if the text up to the end of the name
gives one, and what follows. A name may end with the text only if that ends the word. -/
def afterTilde (expanding : Expanding) (shell : Shell) (isLast : Bool) (text : List Char) :
    List Piece :=
  let ends (c : Char) : Bool := c == '/' || (expanding.tilde == .assigned && c == ':')
  let user := text.takeWhile (!ends ·)
  let rest := text.dropWhile (!ends ·)
  match (if rest.isEmpty && !isLast then none else shell.home? (String.ofList user)) with
  | some home => Piece.ofText true false home ++ expanding.plain rest
  | none => expanding.plain ('~' :: text)

/-- The pieces of text that is not quoted, with its tildes replaced. -/
def withTildes (expanding : Expanding) (shell : Shell) (isFirst isLast : Bool)
    (text : List Char) : List Piece :=
  match expanding.tilde, text with
  | .front, '~' :: after =>
    if isFirst then expanding.afterTilde shell isLast after else expanding.plain text
  | .assigned, _ =>
    let parts := Text.splitOn ':' text
    (parts.zipIdx.map fun (part, i) =>
      let colon := if i = 0 then [] else expanding.plain [':']
      match part with
      | '~' :: after =>
        if i = 0 && !isFirst then colon ++ expanding.plain part
        else colon ++ expanding.afterTilde shell (isLast || i + 1 < parts.length) after
      | _ => colon ++ expanding.plain part).flatten
  | _, _ => expanding.plain text

/-- The pieces of a value. -/
def valuePieces (name : String) (quoted hasArguments : Bool) (text : String) : List Piece :=
  if !quoted then .seam false :: Piece.ofText false true text
  else if name = "@" ∧ hasArguments then .seam true :: Piece.ofText true false text
  else Piece.ofText true false text

/-- Drops newlines at the end. -/
def dropNewlines (text : List Char) : String :=
  String.ofList (text.reverse.dropWhile (· == '\n')).reverse

/-- A value that counts as set. -/
def usable (orNull : Bool) (value : Option String) : Option String :=
  value.filter fun text => !(orNull && text.isEmpty)

/-- The value of a parameter, which must be set if the shell asks for that. -/
def required (expanding : Expanding) (name : String) (quoted : Bool) : Run String := do
  let shell ← get
  match shell.parameter? expanding.toFields quoted name with
  | some value => return value
  | none =>
    if shell.has 'u' then Run.fail (name ++ ": parameter not set")
    else return ""

/-- The value of an expression; the variables that it assigns are set. -/
def number (text : String) : Run String := do
  let shell ← get
  let (result, assigned) := Arithmetic.evaluate ⟨shell.valueOf?, shell.isReadOnly⟩ text
  for (name, value) in assigned.reverse do
    Run.assign name value
  match result with
  | .ok value => return toString value.toInt
  | .error (.expression problem) =>
    Run.fail ("arithmetic expression: " ++ problem ++ ": \"" ++ text ++ "\"")
  | .error (.illegalNumber number) => Run.fail ("Illegal number: " ++ number)
  | .error (.readOnly name) => Run.fail (name ++ ": is read only")

/-- Sets a parameter by its use. Only variables can be set. -/
def assignByUse (name value : String) : Run Unit := do
  Run.checkName name
  Run.assign name value

/-- The same, for a word inside that becomes text. -/
def toText (expanding : Expanding) : Expanding :=
  { expanding with toFields := false, cutsText := false, tilde := .front }

mutual

/-- The pieces that a piece of a word becomes. -/
def part (expanding : Expanding) (isFirst isLast : Bool) : Part → Run (List Piece)
  | .text text quoted => do
    if quoted then return .hold :: Piece.ofText true false text
    else return expanding.withTildes (← get) isFirst isLast text.toList
  | .parameter name use quoted => parameter expanding name quoted use
  | .output body quoted => do
    let text ← expanding.capture body
    return valuePieces "" quoted false (dropNewlines (text.toList.filter (· != Piece.mark)))
  | .arithmetic expression quoted => do
    let inner ← parts { expanding.toText with tilde := .nowhere } true expression
    let value ← number (Piece.text inner)
    return valuePieces "" quoted false value
termination_by structural part => part

/-- The pieces that pieces of a word become. -/
def parts (expanding : Expanding) (isFirst : Bool) : List Part → Run (List Piece)
  | [] => return []
  | first :: rest => do
    let found ← part expanding isFirst rest.isEmpty first
    return found ++ (← parts expanding false rest)
termination_by structural word => word

/-- The pieces that a parameter becomes by its use. -/
def parameter (expanding : Expanding) (name : String) (quoted : Bool) : Use → Run (List Piece)
  | .malformed => Run.fail "Bad substitution"
  | .value => do
    let value ← required expanding name quoted
    return valuePieces name quoted (!(← get).arguments.isEmpty) value
  | .length => do
    let value ← required expanding name quoted
    return valuePieces "" quoted false (toString value.length)
  | .trim side longest pattern => do
    let value ← required expanding name quoted
    let pattern ← parts expanding.toText true pattern
    return valuePieces name quoted (!(← get).arguments.isEmpty)
      (Pattern.trim side longest (Piece.pattern pattern) value)
  | .fallback orNull word => do
    let shell ← get
    match usable orNull (shell.parameter? expanding.toFields quoted name) with
    | some value => return valuePieces name quoted (!shell.arguments.isEmpty) value
    | none => parts { expanding with cutsText := !quoted, tilde := .front } true word
  | .replacement orNull word => do
    match usable orNull ((← get).parameter? expanding.toFields quoted name) with
    | some _ => parts { expanding with cutsText := !quoted, tilde := .front } true word
    | none => return []
  | .assignment orNull word => do
    let shell ← get
    match usable orNull (shell.parameter? expanding.toFields quoted name) with
    | some value => return valuePieces name quoted (!shell.arguments.isEmpty) value
    | none =>
      let value ← parts expanding.toText true word
      assignByUse name (Piece.text value)
      return valuePieces name quoted false (Piece.text value)
  | .demand orNull message => do
    let shell ← get
    match usable orNull (shell.parameter? expanding.toFields quoted name) with
    | some value => return valuePieces name quoted (!shell.arguments.isEmpty) value
    | none =>
      let given := !message.isEmpty
      let message ← parts expanding.toText true message
      Run.fail (name ++ ": " ++
        (if given then Piece.text message
        else "parameter not set" ++ (if orNull then " or null" else "")))
termination_by structural use => use

end

end Expanding

namespace Run

/-- The text of a word. -/
def textOf (capture : Command → Run String) (tilde : Tilde) (word : Word) : Run String := do
  let pieces ← Expanding.parts { toFields := false, tilde, capture } true word
  return Piece.text pieces

/-- The pattern of a word. -/
def patternOf (capture : Command → Run String) (word : Word) : Run Pattern := do
  let pieces ← Expanding.parts { toFields := false, capture } true word
  return Piece.pattern pieces

/-- The fields of a word. -/
def fieldsOf (capture : Command → Run String) (word : Word) : Run (List String) := do
  let pieces ← Expanding.parts { toFields := true, capture } true word
  let shell ← get
  let found := Piece.fields shell.separators pieces
  if shell.has 'f' || !found.any Pattern.hasSigns then return found.map Pattern.text
  else Act.viewTree fun tree dir => found.flatMap (Pattern.paths tree dir)

/-- The fields of words. -/
def allFields (capture : Command → Run String) : List Word → Run (List String)
  | [] => return []
  | word :: words => do
    let found ← fieldsOf capture word
    return found ++ (← allFields capture words)

/-- What a redirection is to do, with its words replaced. -/
inductive Opening where
  | file (descriptor : Nat) (mode : OpenMode) (path : String)
  | duplicate (descriptor : Nat) (source : Nat)
  | close (descriptor : Nat)
  | here (descriptor : Nat) (document : Nat)

/-- The descriptor that a redirection changes. -/
def Opening.descriptor : Opening → Nat
  | .file descriptor _ _ | .duplicate descriptor _ | .close descriptor | .here descriptor _ =>
    descriptor

/-- Replaces the words of a redirection. What is no descriptor counts as an error in the text of
the script. -/
def opening (capture : Command → Run String) : Redirect → Run Opening
  | .file descriptor mode path => return .file descriptor mode (← textOf capture .front path)
  | .duplicate descriptor target => do
    match (← textOf capture .front target).toList with
    | ['-'] => return .close descriptor
    | [digit] =>
      if digit.isDigit then return .duplicate descriptor (digit.toNat - '0'.toNat)
      else misplaced
    | _ => misplaced
  | .here descriptor document => return .here descriptor document
where
  /-- What is no descriptor. -/
  misplaced : Run Opening := do
    modify fun shell => { shell with line := shell.reading }
    fail "Syntax error: Bad fd number"

/-- Carries out a redirection. -/
def openAs (capture : Command → Run String) : Opening → Run Unit
  | .file descriptor mode path => openFile descriptor mode path
  | .duplicate descriptor source => do
    if descriptor != source then
      match ← Act.channel? source with
      | some channel => Act.connect descriptor (some channel)
      | none => fail (toString source ++ ": Bad file descriptor")
  | .close descriptor => Act.connect descriptor none
  | .here descriptor document => do
    let text ← textOf capture .nowhere (((← get).documents.lookup document).getD [])
    Act.connect descriptor (some (← Act.source text))

end Run

end StagedBuild.Script
