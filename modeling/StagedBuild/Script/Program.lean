import StagedBuild.Script.Tools

/-!
# Programs

A program is looked up by its path if that has a slash, and in the directories of the search path
if not. A file is started only if it is executable and its first line names an interpreter, whose
path is taken as it is. A process that becomes a program does not come back. Shells are run by a
function given from outside.
-/

namespace StagedBuild.Script.Program

open Process

/-- The directories of the search path, unless the environment names others. -/
def defaultPath : String := "/usr/local/sbin:/usr/local/bin:/usr/sbin:/usr/bin:/sbin:/bin"

/-- The paths that a name may stand for. -/
def candidates (searchPath name : String) : List String :=
  if name.contains '/' then [name]
  else if name.isEmpty then []
  else (Text.splitOn ':' searchPath.toList).map fun dir =>
    if dir.isEmpty then name else String.ofList dir ++ "/" ++ name

/-- How much of a script is looked at to find its interpreter. -/
def headSize : Nat := 256

/-- The head of a script, filled up with null characters. -/
def head (bytes : ByteArray) : List Char :=
  let found := (Text.Octets.ofArray (bytes.extract 0 headSize)).toList
  found ++ List.replicate (headSize - found.length) '\x00'

/-- A blank between the interpreter and its argument. -/
def isSpace (c : Char) : Bool := c == ' ' || c == '\t'

/-- What ends the path of an interpreter. -/
def endsPath (c : Char) : Bool := isSpace c || c == '\x00'

/-- The line that names the interpreter, after its mark. A line that does not end in the head loses
its end, which may be the argument's but not that of the path. -/
def firstLine? (text : List Char) : Option (List Char) :=
  if text.contains '\n' then some (text.takeWhile (· != '\n'))
  else if (text.dropWhile isSpace).any endsPath then some text.dropLast
  else none

/-- The interpreter that a script's first line names, with the argument it is given: all that
follows the path and a blank, up to a null character. Blanks at the end of the line do not count.
A path without characters is the directory we are in. -/
def interpreter? (bytes : ByteArray) : Option (String × List String) :=
  match head bytes with
  | '#' :: '!' :: text => do
    let line ← firstLine? text
    let line := ((line.reverse.dropWhile isSpace).reverse).dropWhile isSpace
    if line.isEmpty then none
    let path := line.takeWhile (!endsPath ·)
    let path := if path.isEmpty then "." else String.ofList path
    match line.dropWhile (!endsPath ·) with
    | ' ' :: rest | '\t' :: rest =>
      let argument := (rest.dropWhile isSpace).takeWhile (· != '\x00')
      return (path, [String.ofList argument])
    | _ => return (path, [])
  | _ => none

/-- The most bytes that one argument or variable of a program may have, and all of them. -/
def maxTextSize : Nat := 131071
@[inherit_doc maxTextSize] def maxTotalSize : Nat := 2097152 - 4096

/-- The arguments or variables of a program are too long. -/
def exceeds (call : Call) : Bool :=
  let args := call.name :: call.args
  let settings := call.environment.map fun (name, value) => name.length + 1 + value.length
  let sizes := args.map String.length ++ settings
  sizes.any (maxTextSize < ·) || maxTotalSize < sizes.foldl (fun sum size => sum + size + 9) 0

/-- How many scripts may have each other as interpreters. -/
def maxScripts : Nat := 5

/-- How often a process may become another program. -/
def maxStarts : Nat := 1000

/-- What a program is that the process can become. -/
inductive Kind where
  /-- A shell, or a tool. -/
  | shell
  | tool (run : Execute → Tool)
  /-- A script, with its interpreter and the argument of that. -/
  | script (interpreter : String) (argument : List String)

/-- What is found at a path, if a process can become that. -/
def kindAt (path : String) : Act (Except OsError Kind) :=
  Act.viewTree fun tree dir => do
    let id ← tree.find dir path
    match tree.content id with
    | .directory .. | .device _ | .link _ | .queue _ => throw .permissionDenied
    | .file bytes =>
      if (tree.node id).rights &&& 73 = 0 then throw .permissionDenied
      match interpreter? bytes with
      | some (interpreter, argument) => return .script interpreter argument
      | none => throw .notProgram
    | .program name =>
      if name = "sh" then return .shell
      match Tools.find? name with
      | some run => return .tool run
      | none => throw .notProgram

/-- Tries paths until the process has become a program; the error if there is none. What is not
there matters least. -/
def firstOf (start : (path : String) → Act OsError) :
    (problem : OsError) → List String → Act OsError
  | problem, [] => return problem
  | problem, path :: paths => do
    let e ← start path
    firstOf start (if e = .notFound ∨ e = .notDirectory then problem else e) paths

/-- Runs a tool to the end of the process. -/
def run (tool : Tool) (call : Call) : Act OsError := do
  Act.renew
  let status ← tool { call with trouble := 1 }
  Act.exit status

mutual

/-- Lets the process become the program at a path; the error if it cannot. A script is run by its
interpreter, and not more than `scripts` of them. -/
def become (shell : Tool) : (starts scripts : Nat) → (path : String) → Call → Act OsError
  | 0, _, _, _ => Act.exhaust
  | starts + 1, scripts, path, call => do
    if exceeds call then return .argumentsTooLong
    match ← kindAt path, scripts with
    | .error e, _ => return e
    | .ok .shell, _ => run shell call
    | .ok (.tool tool), _ => run (tool (search shell starts)) call
    | .ok (.script interpreter argument), scripts + 1 =>
      become shell starts scripts interpreter { call with
        name := interpreter, args := argument ++ path :: call.args }
    | .ok (.script ..), 0 => return .tooManyLinks
termination_by structural starts => starts

/-- Lets the process become the program that a call names, which is looked for in the search path of
its environment. A file without an interpreter is a script of the shell. -/
def search (shell : Tool) : (starts : Nat) → Call → Act OsError
  | 0, _ => Act.exhaust
  | starts + 1, call => do
    let paths := candidates ((call.environment.lookup "PATH").getD defaultPath) call.name
    firstOf (fun path => do
      match ← become shell starts maxScripts path call with
      | .notProgram => run shell { call with name := "/bin/sh", args := path :: call.args }
      | e => return e) .notFound paths
termination_by structural starts => starts

end

end StagedBuild.Script.Program
