import StagedBuild.Script.Numeral
import StagedBuild.Script.Tools.Input

/-!
# Applying programs to what is read

Arguments are read and a program is started with as many of them at a time as fit, or as are asked
for. In the text that is read, arguments stand between blanks or at the ends of lines, and may be
quoted; or each of them ends with a sign. Instead, whole lines may be put in place of a text in the
arguments of the program.
-/

namespace StagedBuild.Script.Tools

open Process

/-- How arguments are read and put together. -/
structure Applying where
  call : Call
  execute : Execute
  /-- The program and the arguments that stand before the others. -/
  start : List String
  /-- What arguments end with, if they cannot be quoted. -/
  stop : Option Char := none
  /-- What is read as an argument after which there are no more. -/
  last : Option String := none
  /-- The text that is replaced. -/
  replaced : Option String := none
  mostArgs : Option Nat := none
  mostLines : Option Nat := none
  /-- How long the program and its arguments may be. -/
  size : Nat := 131072
  /-- Arguments that do not fit together are refused. -/
  isStrict : Bool := false
  tells : Bool := false
  asks : Bool := false
  startsEmpty : Bool := true
  /-- The program reads what is left of the input. -/
  keepsInput : Bool := false

/-- Arguments that have been read and not used yet. -/
structure Batch where
  args : List String := []
  lines : Nat := 0
  /-- The program has been started before. -/
  started : Bool := false
  status : Nat := 0

/-- What is read of a text with arguments. -/
structure Reading where
  done : List String := []
  current : Option String := none
  /-- The last sign was a backslash. -/
  escaping : Bool := false
  quote : Option Char := none
  /-- The last sign was a blank. -/
  afterBlank : Bool := false

namespace Applying

/-- How long arguments are. -/
def lengthOf (args : List String) : Nat :=
  args.foldl (fun sum arg => sum + arg.length + 1) 0

/-- Starts the program and waits for its end; the greatest status. -/
def start1 (applying : Applying) (batch : Batch) (args : List String) : Act Batch := do
  let call := applying.call
  let shown := " ".intercalate (args.map call.plainPath)
  if applying.asks then
    let _ ← Act.write 2 shown
    call.giveUp "failed to open /dev/tty for reading: No such device or address"
  if applying.tells then call.say shown
  let name := args.headD ""
  let mark := 1000
  let child ← Act.fork (do
    if !applying.keepsInput then
      if let .ok channel ← Act.openPath .reading "/dev/null" then Act.connect 0 (some channel)
    let e ← applying.execute { call with name, args := args.tail }
    call.complain (name ++ ": " ++ e.description)
    return .status (mark + (if e = .notFound then 127 else 126)))
  match ← Act.waitFor child with
  | .signal signal =>
    call.complain (name ++ ": terminated by signal " ++ toString signal)
    Act.exit 125
  | .status status =>
    if mark ≤ status then Act.exit (status - mark)
    if status = 255 then
      call.complain (name ++ ": exited with status 255; aborting")
      Act.exit 124
    return { batch with
      args := [], lines := 0, started := true, status := if status = 0 then batch.status else 123 }

/-- Starts the program with the arguments that have been read. -/
def flush (applying : Applying) (batch : Batch) : Act Batch :=
  applying.start1 batch (applying.start ++ batch.args.reverse)

/-- Starts the program with a text in place of another. -/
def insert (applying : Applying) (batch : Batch) (pattern text : String) : Act Batch := do
  let args := applying.start.take 1 ++
    (applying.start.drop 1).map fun arg => arg.replace pattern text
  if applying.size < lengthOf args then applying.call.giveUp "argument list too long"
  applying.start1 batch args

/-- Adds an argument. -/
def add (applying : Applying) (batch : Batch) (arg : String) : Act Batch := do
  let fits (batch : Batch) : Bool :=
    lengthOf (arg :: batch.args) + lengthOf applying.start ≤ applying.size
  if applying.size ≤ lengthOf applying.start + arg.length then
    if !batch.args.isEmpty then let _ ← applying.flush batch
    applying.call.giveUp "argument line too long"
  let batch ← if fits batch then pure batch
    else if applying.isStrict then applying.call.giveUp "argument list too long"
    else applying.flush batch
  let batch := { batch with args := arg :: batch.args }
  if applying.mostArgs.any (· ≤ batch.args.length) then applying.flush batch else return batch

/-- Notes the end of a line that has arguments. -/
def endLine (applying : Applying) (batch : Batch) : Act Batch := do
  let batch := { batch with lines := batch.lines + 1 }
  if applying.mostLines.any (· ≤ batch.lines) && !batch.args.isEmpty then applying.flush batch
  else return batch

/-- Adds arguments. -/
def addAll (applying : Applying) : List String → Batch → Act Batch
  | [], batch => return batch
  | arg :: args, batch => do
    applying.addAll args (← applying.add batch arg)

/-- Refuses a quotation without an end. -/
def unmatched {α : Type} (applying : Applying) (quote : Char) : Act α :=
  applying.call.giveUp ("unmatched " ++ (if quote = '"' then "double" else "single") ++
    " quote; by default quotes are special to xargs unless you use the -0 option")

/-- Reads a sign of a line. When whole lines are read, blanks end nothing. -/
def readSign (wholeLines : Bool) (reading : Reading) (c : Char) : Reading :=
  let add (reading : Reading) : Reading :=
    { reading with current := some (reading.current.getD "" ++ c.toString), afterBlank := false }
  if reading.escaping then { add reading with escaping := false }
  else match reading.quote with
    | some quote =>
      if c = quote then { reading with quote := none } else add reading
    | none =>
      if c = '\\' then { reading with escaping := true, afterBlank := false }
      else if c = '"' || c = '\'' then
        { reading with
          quote := some c, current := some (reading.current.getD ""), afterBlank := false }
      else if !Numeral.isSpace c then add reading
      else if wholeLines && c != '\n' then
        if reading.current.isSome then add reading else reading
      else { reading with
        done := reading.current.toList ++ reading.done, current := none, afterBlank := c != '\n' }

/-- Uses the arguments of a line that has been read; false if there are to be no more. -/
def useLine (applying : Applying) (reading : Reading) (batch : Batch) : Act (Bool × Batch) := do
  let all := reading.done.reverse
  let args := all.takeWhile fun arg => applying.last != some arg
  let batch ← match applying.replaced with
    | some pattern => args.foldlM (fun batch arg => applying.insert batch pattern arg) batch
    | none => applying.addAll args batch
  return (args.length == all.length, batch)

/-- Reads lines with quotes and uses them. -/
def quotedLines (applying : Applying) : (rounds : Nat) → Reading → Lines → Batch → Act Batch
  | 0, _, _, _ => Act.exhaust
  | rounds + 1, reading, lines, batch => do
    let (line, lines) ← lines.next
    match line with
    | none =>
      if let some quote := reading.quote then unmatched applying quote
      let reading := { reading with done := reading.current.toList ++ reading.done }
      return (← applying.useLine reading batch).2
    | some line =>
      let (text, isWhole) := withoutStop '\n' line
      let wholeLines := applying.replaced.isSome
      let found := text.toList.foldl (readSign wholeLines) reading
      if let (some quote, true) := (found.quote, isWhole) then unmatched applying quote
      let isOpen := found.escaping || !isWhole
      let found := if isWhole then readSign wholeLines found '\n' else found
      if isOpen then
        quotedLines applying rounds { found with done := found.done } lines batch
      else
        let goesOn := text.toList.getLast?.any Numeral.isSpace && applying.replaced.isNone
        let isEmpty := found.done.isEmpty && reading.done.isEmpty
        let (more, batch) ← applying.useLine found batch
        let batch ← if isEmpty || goesOn then pure batch else applying.endLine batch
        if more then quotedLines applying rounds {} lines batch else return batch

/-- Reads arguments with signs behind them and uses them. -/
def plainItems (applying : Applying) (stop : Char) : (rounds : Nat) → Lines → Batch → Act Batch
  | 0, _, _ => Act.exhaust
  | rounds + 1, lines, batch => do
    let (item, lines) ← lines.next
    match item with
    | none => return batch
    | some item =>
      let (arg, _) := withoutStop stop item
      let batch ← match applying.replaced with
        | some pattern => applying.insert batch pattern arg
        | none => do
          let batch ← applying.add batch arg
          applying.endLine batch
      plainItems applying stop rounds lines batch

/-- Reads all arguments and starts programs with them; the status. -/
def run (applying : Applying) (descriptor : Nat) : Act Nat := do
  if applying.replaced == some "" then applying.call.giveUp "command too long"
  if applying.size ≤ lengthOf applying.start then
    applying.call.giveUp "cannot fit single argument within argument list size limit"
  let batch ← match applying.stop with
    | some stop => applying.plainItems stop Act.maxRounds { descriptor, stop } {}
    | none => applying.quotedLines Act.maxRounds {} { descriptor } {}
  let isLeft := !batch.args.isEmpty ||
    (!batch.started && applying.startsEmpty && applying.replaced.isNone)
  let batch ← if isLeft then applying.flush batch else pure batch
  return batch.status

/-- Refuses how the tool was called. -/
def misuse {α : Type} (applying : Applying) (problem : String) : Act α :=
  applying.call.dismiss problem

/-- The number that was given for an option. -/
def numberOf (applying : Applying) (key value : String) (least : Nat) : Act Nat := do
  match Numeral.integer? true false value with
  | none => applying.misuse ("invalid number \"" ++ value ++ "\" for -" ++ key ++ " option")
  | some number =>
    if number < least then
      applying.misuse ("value " ++ value ++ " for -" ++ key ++ " option should be >= " ++
        toString least)
    return number.toNat

/-- Warns that an option does not go together with one before it. -/
def warn (applying : Applying) (earlier later : String) : Act Unit :=
  applying.call.complain ("warning: options " ++ earlier ++ " and " ++ later ++
    " are mutually exclusive, ignoring previous " ++ earlier ++ " value")

/-- The sign that a text denotes, which may be an escape. -/
def delimiter? (text : String) : Option Char :=
  match text.toList with
  | [c] => some c
  | ['\\', '0'] => some '\x00'
  | '\\' :: 'x' :: digits =>
    if digits.all (Numeral.isDigitIn 16) then some (Char.ofNat (Numeral.ofDigits 16 digits % 256))
    else none
  | ['\\', letter] => ([('a', '\x07'), ('b', '\x08'), ('f', '\x0c'), ('n', '\n'), ('r', '\r'),
      ('t', '\t'), ('v', '\x0b'), ('\\', '\\')].lookup letter)
  | '\\' :: digits =>
    if digits.all (Numeral.isDigitIn 8) then some (Char.ofNat (Numeral.ofDigits 8 digits % 256))
    else none
  | _ => none

/-- Takes an option into account. -/
def withOption (applying : Applying) (key value : String) : Act Applying := do
  match key with
  | "0" => return { applying with stop := some '\x00' }
  | "d" =>
    match delimiter? value with
    | some stop => return { applying with stop := some stop }
    | none =>
      applying.call.complain ("Invalid input delimiter specification " ++ value ++
        ": the delimiter must be either a single character or an escape sequence starting with \\.")
      Act.exit 1
  | "E" | "e" => return { applying with last := if value.isEmpty then none else some value }
  | "I" | "i" =>
    if applying.mostArgs.isSome then applying.warn "--max-args" "--replace/-I/-i"
    if applying.mostLines.isSome then applying.warn "--max-lines" "--replace/-I/-i"
    return { applying with
      replaced := some (if key = "i" && value.isEmpty then "\x7b\x7d" else value), mostArgs := none
      mostLines := none, isStrict := true }
  | "L" | "l" =>
    let name := if key = "L" then "-L" else "--max-lines/-l"
    let count ← if value.isEmpty then pure 1 else applying.numberOf key value 1
    if applying.mostArgs.isSome then applying.warn "--max-args" name
    if applying.replaced.isSome then applying.warn "--replace" name
    return { applying with
      mostLines := some count, mostArgs := none, replaced := none, isStrict := true }
  | "n" =>
    let count ← applying.numberOf key value 1
    if applying.mostLines.isSome then applying.warn "--max-lines" "--max-args/-n"
    if applying.replaced.isSome then
      if count = 1 then return applying
      applying.warn "--replace" "--max-args/-n"
    return { applying with mostArgs := some count, mostLines := none, replaced := none }
  | "P" =>
    let _ ← applying.numberOf key value 0
    return applying
  | "s" => return { applying with size := ← applying.numberOf key value 1 }
  | "p" => return { applying with asks := true }
  | "r" => return { applying with startsEmpty := false }
  | "t" => return { applying with tells := true }
  | "x" => return { applying with isStrict := true }
  | _ => return applying

end Applying

/-- Starts a program with arguments that are read. -/
def xargs (execute : Execute) : Tool := withOptionsFirst ("0,null a,arg-file= d,delimiter= E= " ++
    "e,eof? I= i,replace? L= l,max-lines? n,max-args= o,open-tty P,max-procs= p,interactive " ++
    "r,no-run-if-empty s,max-chars= t,verbose x,exit ,show-limits ,process-slot-var=") noneOther
    fun given args call => do
  let start := if args.isEmpty then ["echo"] else args
  let applying ← given.foldlM (fun (applying : Applying) (key, value) =>
    applying.withOption key value) { call, execute, start }
  match given.value? "a" with
  | none | some "-" => applying.run 0
  | some path =>
    match ← Act.withFile .reading path ({ applying with keepsInput := true }).run with
    | .ok status => return status
    | .error e =>
      call.refuse ("Cannot open input file " ++ call.quoted path ++ ": " ++ e.description)

end StagedBuild.Script.Tools
