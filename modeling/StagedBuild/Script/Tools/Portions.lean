import StagedBuild.Script.Tools.Input
import StagedBuild.Script.Tools.Printing
import StagedBuild.Script.Tools.Quantity

/-!
# Parts of texts

Showing the first or the last lines or bytes of files. The first part is read no further than it
goes, so that what follows can be read by others.
-/

namespace StagedBuild.Script.Tools

open Process

/-- Which part of a text is shown. -/
structure Portion where
  /-- Bytes count, and not lines. -/
  bytes : Bool := false
  count : Nat := 10
  /-- The count is of what is left out: at the other end. -/
  leavesOut : Bool := false
  /-- What ends a line. -/
  stop : Char := '\n'

namespace Portion

/-- How much of a text the first lines or bytes are. -/
def firstSize (portion : Portion) (count : Nat) (text : String) : Nat :=
  if portion.bytes then min count text.length
  else (linesOf portion.stop text).take count |>.foldl (fun sum line => sum + line.length) 0

/-- How many lines or bytes a text has. -/
def total (portion : Portion) (text : String) : Nat :=
  if portion.bytes then text.length else (linesOf portion.stop text).length

/-- The first part of a text of `count` lines or bytes, and how many of them are still to come. -/
def front (portion : Portion) (count : Nat) (text : String) : String × Nat :=
  if portion.bytes then ((text.take count).toString, count - text.length)
  else
    let lines := (linesOf portion.stop text).take count
    let found := if (lines.getLast?.bind String.back?) = some portion.stop then lines.length
      else lines.length - 1
    (String.join lines, count - found)

/-- The last part of a text. -/
def back (portion : Portion) (text : String) : String :=
  let start := if portion.leavesOut then portion.count - 1
    else portion.total text - portion.count
  (text.drop (portion.firstSize start text)).toString

end Portion

/-- Shows parts of files, with titles over them if there are several. There are words of their own
for an input that is `closed`. -/
def showParts (call : Call) (given : Given) (closed : String) (files : List String)
    (part : (descriptor : Nat) → Act (Option OsError)) : Act Nat := do
  let files := inputs files
  let titled := match given.last? ["q", "v"] with
    | some key => key == "v"
    | none => 1 < files.length
  let complaints : Complaints := {
    opening := fun call path e =>
      "cannot open " ++ call.path path ++ " for reading: " ++ e.description
    reading := fun call path e =>
      (if e = .badDescriptor then closed else "error reading ") ++ call.path (title path) ++ ": " ++
        e.description }
  let read (path : String) (descriptor : Nat) (first : Bool) : Act (Progress Bool) := do
    if titled then
      call.print ((if first then "" else "\n") ++ "==> " ++ title path ++ " <==\n")
    return (false, ← part descriptor)
  return (← overInputs call complaints read files true).2

/-- Prints the first lines or bytes of a descriptor. -/
def printFront (call : Call) (portion : Portion) (descriptor : Nat) :
    (rounds : Nat) → (count : Nat) → Act (Option OsError)
  | 0, _ => Act.exhaust
  | rounds + 1, count => do
    if count = 0 then return none
    let size := if portion.bytes then min count 8192 else 8192
    match ← Act.read descriptor size with
    | .error e => return some e
    | .ok block =>
      if block.isEmpty then return none
      let (shown, left) := portion.front count block
      if left = 0 then unread descriptor (block.length - shown.length)
      call.print shown
      printFront call portion descriptor rounds left

/-- Prints all of a descriptor but the last lines or bytes. -/
def printAllBut (call : Call) (portion : Portion) (descriptor : Nat) :
    (rounds : Nat) → (rest : String) → Act (Option OsError)
  | 0, _ => Act.exhaust
  | rounds + 1, rest => do
    match ← Act.read descriptor Act.blockSize with
    | .error e => return some e
    | .ok block =>
      let text := rest ++ block
      let isPartial := !block.isEmpty && !portion.bytes && text.back? != some portion.stop
      let count := portion.total text - portion.count - (if isPartial then 1 else 0)
      let size := portion.firstSize count text
      call.print (text.take size).toString
      if block.isEmpty then return none
      printAllBut call portion descriptor rounds (text.drop size).toString

/-- The count of lines or bytes that options ask for, and its sign. -/
def countOf (call : Call) (given : Given) (default : Portion) : Act (Portion × Option Char) := do
  let stop := if given.has "z" then '\x00' else '\n'
  match given.last? ["n", "c"] with
  | none => return ({ default with stop }, none)
  | some key =>
    let text := (given.value? key).getD ""
    let problem := "invalid number of " ++ (if key = "c" then "bytes" else "lines")
    let (sign, number) := match text.toList with
      | '-' :: rest => (some '-', String.ofList rest)
      | '+' :: _ => (some '+', text)
      | _ => (none, text)
    let count ← match Quantity.read Quantity.commonUnits Quantity.mostUnsigned number with
      | .ok count => pure count
      | .error .tooGreat => call.giveUp (problem ++ ": " ++
          call.quoted (if sign = some '+' then text else number) ++
          ": Value too large for defined data type")
      | .error _ => call.giveUp (problem ++ ": " ++ call.quoted number)
    return ({ bytes := key == "c", count, stop }, sign)

/-- A count that stands behind a hyphen, with letters for what is counted, as options. -/
def oldHeadCount (call : Call) : Act (List String) := do
  match call.args with
  | [] => return []
  | arg :: args =>
    match arg.toList with
    | '-' :: c :: rest =>
      if !c.isDigit then return arg :: args
      let digits := (c :: rest).takeWhile Char.isDigit
      let letters := (c :: rest).dropWhile Char.isDigit
      if let some letter := letters.find? (!"cbkmlqvz".toList.contains ·) then
        call.giveUp ("invalid trailing option -- " ++ letter.toString ++
          "\nTry '" ++ call.name ++ " --help' for more information.")
      let unit := letters.reverse.find? fun c => "cbkm".toList.contains c
      let suffix := match unit with
        | some 'c' | none => ""
        | some unit => unit.toString
      let isLines := unit.isNone
      let flags := letters.filter fun c => "qvz".toList.contains c
      return ((if isLines then "-n" else "-c") ++ String.ofList digits ++ suffix) ::
        flags.map (fun c => String.ofList ['-', c]) ++ args
    | _ => return arg :: args

/-- Shows the first lines or bytes. -/
def head : Tool := fun call => do
  let args ← oldHeadCount call
  withOptions "c,bytes= n,lines= q,quiet,silent v,verbose z,zero-terminated"
    (fun given files call => do
      let (portion, sign) ← countOf call given {}
      showParts call given "error reading " files fun descriptor =>
        if sign = some '-' then printAllBut call portion descriptor Act.maxRounds ""
        else printFront call portion descriptor Act.maxRounds portion.count)
    { call with args }

/-- Prints what follows the first lines or bytes of a descriptor. -/
def printFrom (call : Call) (portion : Portion) (descriptor : Nat) :
    (rounds : Nat) → (skip : Nat) → Act (Option OsError)
  | 0, _ => Act.exhaust
  | rounds + 1, skip => do
    match ← Act.read descriptor Act.blockSize with
    | .error e => return some e
    | .ok block =>
      if block.isEmpty then return none
      let (skipped, left) := if skip = 0 then ("", 0) else portion.front skip block
      call.print (block.drop skipped.length).toString
      printFrom call portion descriptor rounds left

/-- A count behind a sign, with a letter for what is counted, as options: only where at most one
file follows. -/
def oldTailCount (args : List String) : List String :=
  let isOld := match args with
    | [_] | [_, "-"] | [_, "--"] | [_, "--", _] => true
    | [_, file] => !file.startsWith "-"
    | _ => false
  match args, isOld with
  | arg :: rest, true =>
    match arg.toList with
    | sign :: body =>
      let digits := body.takeWhile Char.isDigit
      let number := if digits.isEmpty then "10" else String.ofList digits
      let start := if sign = '+' then "+" else ""
      let isLetter := sign == '+' || !digits.isEmpty
      if !isLetter || (sign != '-' && sign != '+') then args
      else match body.dropWhile Char.isDigit with
        | [] | ['l'] => ("-n" ++ start ++ number) :: rest
        | ['c'] => ("-c" ++ start ++ number) :: rest
        | ['b'] => ("-c" ++ start ++ number ++ "b") :: rest
        | _ => args
    | [] => args
  | _, _ => args

/-- Shows the last lines or bytes. -/
def tail : Tool := fun call => do
  let args := oldTailCount call.args
  if let some arg := args.find? fun arg => arg.startsWith "-" then
    if let c :: _ := arg.toList.tail then
      if c.isDigit then
        return ← call.refuse ("option used in invalid context -- " ++ c.toString)
  withOptions ("c,bytes= n,lines= q,quiet,silent v,verbose z,zero-terminated f,follow? F ,retry " ++
    ",pid= s,sleep-interval= ,max-unchanged-stats=")
    (fun given files call => do
      let (portion, sign) ← countOf call given {}
      for text in given.values "pid" do
        if (Quantity.read [] 4294967295 text).toOption.isNone then
          call.giveUp ("invalid PID: " ++ call.quoted text)
      for text in given.values "s" do
        if (duration? text).isNone then
          call.giveUp ("invalid number of seconds: " ++ call.quoted text)
      showParts call given "cannot fstat " files fun descriptor => do
        if sign = some '+' then
          printFrom call portion descriptor Act.maxRounds (portion.count - 1)
        else if portion.count = 0 then return none
        else match ← Act.readAll descriptor with
          | .error e => return some e
          | .ok text =>
            call.print (portion.back text)
            return none)
    { call with args }

end StagedBuild.Script.Tools
