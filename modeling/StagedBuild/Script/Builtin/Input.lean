import StagedBuild.Script.Builtin.Variables

/-!
# Reading lines and options

Reading a line into variables, and taking options one after another from the arguments of a script.
-/

namespace StagedBuild.Script.Builtin

open Process

/-- A character that was read for variables; escaped ones do not separate. -/
abbrev ReadChar := Char × Bool

/-- How the characters of a line end. -/
inductive LineEnd where
  /-- With the end of the line. -/
  | complete
  /-- With a backslash that joins the next line. -/
  | joined
  /-- With a backslash behind which nothing has come yet. -/
  | escaping
  /-- There may be more. -/
  | open
  deriving DecidableEq, Repr

/-- The characters of a line that has been read, and how they end. A backslash escapes the character
behind it, and joins lines, unless the line is read `raw`; `escaping` is the one behind a backslash
that has been read before. -/
def lineChars (raw : Bool) : (escaping : Bool) → List Char → List ReadChar × LineEnd
  | escaping, [] => ([], if escaping then .escaping else .open)
  | true, '\n' :: _ => ([], .joined)
  | true, c :: rest =>
    let (chars, ending) := lineChars raw false rest
    ((c, true) :: chars, ending)
  | false, '\n' :: _ => ([], .complete)
  | false, '\x00' :: rest => lineChars raw false rest
  | false, c :: rest =>
    if c = '\\' ∧ !raw then lineChars raw true rest
    else
      let (chars, ending) := lineChars raw false rest
      ((c, false) :: chars, ending)

/-- Reads a line from the input: its characters, and whether it has an end. A signal that the shell
handles ends the reading. -/
def readLine (raw : Bool) : (count : Nat) → (escaping : Bool) → Run (List ReadChar × Bool)
  | 0, _ => return ([], false)
  | count + 1, escaping => do
    match ← Act.readLine 0 with
    | .error _ | .ok "" => return ([], false)
    | .ok text =>
      let (chars, ending) := lineChars raw escaping text.toList
      if ending = .complete then return (chars, true)
      let (more, ended) ← readLine raw count (ending = .escaping)
      return (chars ++ more, ended)

/-- A line that is being split for `left` more variables. -/
structure Splitting where
  complete : List (List Char) := []
  growing : List Char := []
  started : Bool := false
  afterSpace : Bool := false
  left : Nat
  /-- The length of the last value without the separators at its end. -/
  kept : Option Nat := none

/-- Takes a character. The last variable gets all that is left: without white space at the end,
where escaped characters do not count, and without its separator if it is one field. -/
def Splitting.step (separators : String) (splitting : Splitting) (c : ReadChar) : Splitting :=
  let isSeparator := !c.2 && separators.contains c.1
  let isSpace := isSeparator && [' ', '\t', '\n'].contains c.1
  let grown := { splitting with growing := c.1 :: splitting.growing, started := true }
  if splitting.left = 0 then
    if isSpace then { grown with kept := some (splitting.kept.getD splitting.growing.length) }
    else if c.2 then { grown with afterSpace := false }
    else
      let keeps := isSeparator && splitting.afterSpace
      { grown with kept := if keeps then splitting.kept else none, afterSpace := false }
  else if splitting.afterSpace && isSeparator then { splitting with afterSpace := isSpace }
  else if isSeparator then
    if isSpace && !splitting.started then splitting
    else if splitting.left = 1 then
      { grown with left := 0, kept := some splitting.growing.length, afterSpace := isSpace }
    else { splitting with
      complete := splitting.growing.reverse :: splitting.complete
      growing := []
      started := false
      afterSpace := isSpace
      left := splitting.left - 1 }
  else { grown with afterSpace := false }

/-- The values for so many variables. -/
def split (separators : String) (count : Nat) (line : List ReadChar) : List String :=
  let splitting := line.foldl (Splitting.step separators) { left := count }
  let last := splitting.growing.reverse
  ((splitting.kept.elim last last.take :: splitting.complete).reverse).map String.ofList

/-- Reads a line into variables. -/
def read : Body := fun args => do
  let (found, names) ← options ['r'] ['p'] args
  if names.isEmpty then Run.fail "arg count"
  let raw := found.any (·.1 == 'r')
  let (chars, ended) ← readLine raw Act.maxRounds false
  let values := split (← get).separators names.length chars
  for (name, i) in names.zipIdx do
    let (name, _) := assignment name
    Run.checkName name
    Run.assign name (values[i]?.getD "")
  return if ended then 0 else 1

/-- What taking an option from arguments gives: a letter, its argument, a complaint, the number of
the argument to go on with, and the place in the one before if that is not used up. -/
structure OptionTaken where
  letter : String
  value : Option String
  complaint : Option String := none
  index : Nat
  offset : Option Nat := none
  status : Nat := 0

/-- Takes an option from arguments. -/
def takeOption (known : String) (arguments : List String) (index : Nat) (offset : Option Nat) :
    OptionTaken :=
  let silent := known.startsWith ":"
  let current : Option (List Char) :=
    if index ≤ 1 then none
    else match offset, arguments[index - 2]? with
      | some offset, some arg => some (arg.toList.drop offset)
      | _, _ => none
  let fresh : Option (List Char) × Nat :=
    match current with
    | some (c :: cs) => (some (c :: cs), index)
    | _ => match arguments[index - 1]?.map String.toList with
      | some ['-', '-'] => (none, index + 1)
      | some ('-' :: c :: cs) => (some (c :: cs), index + 1)
      | _ => (none, index)
  match fresh with
  | (some (letter :: rest), index) =>
    let inside := (arguments[index - 2]?.getD "").length - rest.length
    match known.toList.dropWhile (· != letter), letter with
    | [], _ | _, ':' =>
      if silent then ⟨"?", some letter.toString, none, index, some inside, 0⟩
      else ⟨"?", none, some ("Illegal option -" ++ letter.toString), index, some inside, 0⟩
    | _ :: ':' :: _, _ =>
      match rest.isEmpty, arguments[index - 1]? with
      | false, _ => ⟨letter.toString, some (String.ofList rest), none, index, none, 0⟩
      | true, some value => ⟨letter.toString, some value, none, index + 1, none, 0⟩
      | true, none =>
        if silent then ⟨":", some letter.toString, none, index, none, 0⟩
        else ⟨"?", none, some ("No arg for -" ++ letter.toString ++ " option"), index, none, 0⟩
    | _, _ => ⟨letter.toString, some "", none, index, some inside, 0⟩
  | (_, index) => ⟨"?", none, none, index, none, 1⟩

/-- Takes the next option of a script from its arguments. -/
def getopts : Body := fun args => do
  match args with
  | known :: name :: given =>
    let (name, _) := assignment name
    let shell ← get
    let arguments := if given.isEmpty then shell.arguments else given
    let isBehind := arguments.length + 1 < shell.optionIndex
    let taken := if isBehind then takeOption known arguments 1 none
      else takeOption known arguments shell.optionIndex shell.optionOffset
    match taken.complaint with
    | some text => Run.writeError (text ++ "\n")
    | none => pure ()
    match taken.value with
    | some value => Run.assign "OPTARG" value
    | none => if taken.status = 0 then modify (·.putVariable "OPTARG" none)
    Run.assign "OPTIND" (toString taken.index)
    modify fun shell => { shell with optionIndex := taken.index, optionOffset := taken.offset }
    Run.checkName name
    Run.assign name taken.letter
    return taken.status
  | _ => Run.fail "Usage: getopts optstring var [arg...]"

end StagedBuild.Script.Builtin
