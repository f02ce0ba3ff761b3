import StagedBuild.Script.Tools.Options

/-!
# What tools read

A tool reads the files that it is given, one after another; a hyphen stands for its standard input.
It reads blocks, or the lines of blocks. Lines keep their ends, and the last one may have none.
-/

namespace StagedBuild.Script.Tools

open Process

/-- What a tool says about files that it cannot read. -/
structure Complaints where
  /-- The file cannot be opened. -/
  opening : Call → (path : String) → OsError → String := fun call path e =>
    call.plainPath path ++ ": " ++ e.description
  /-- The file cannot be read. -/
  reading : Call → (path : String) → OsError → String := opening
  /-- The standard input cannot be closed, because it was not open. -/
  closing : String := "-: Bad file descriptor"

/-- What a file is called in titles. -/
def title (path : String) : String :=
  if path = "-" then "standard input" else path

/-- A state after reading, and the error that ended it. -/
abbrev Progress (σ : Type) := σ × Option OsError

/-- Reads inputs one after another, with a state that goes from one to the next. The status is that
of a failure if an input could not be read. -/
def overInputs {σ : Type} (call : Call) (complaints : Complaints)
    (read : (path : String) → (descriptor : Nat) → σ → Act (Progress σ)) :
    List String → σ → Act (σ × Nat)
  | [], state => return (state, 0)
  | path :: paths, state => do
    let (problem, state) ← if path = "-" then one path 0 state else do
      match ← Act.withFile .reading path fun descriptor => one path descriptor state with
      | .ok found => pure found
      | .error e => pure (some (complaints.opening call path e), state)
    if let some problem := problem then call.complain problem
    let (state, status) ← overInputs call complaints read paths state
    if path = "-" && problem.isSome && (← Act.channel? 0).isNone then
      call.complain complaints.closing
    return (state, if problem.isSome then call.trouble else status)
where
  /-- Reads one input: what there is to say about it, and the new state. -/
  one (path : String) (descriptor : Nat) (state : σ) : Act (Option String × σ) := do
    let (state, problem) ← read path descriptor state
    return (problem.map (complaints.reading call path), state)

/-- The inputs that arguments name: the standard input if there are none. -/
def inputs (paths : List String) : List String :=
  if paths.isEmpty then ["-"] else paths

/-- Reads blocks of a descriptor until its end, or until the step is done. -/
def overBlocks {σ : Type} (descriptor : Nat) (step : σ → String → Act (ForInStep σ)) :
    (rounds : Nat) → σ → Act (Progress σ)
  | 0, _ => Act.exhaust
  | rounds + 1, state => do
    match ← Act.read descriptor Act.blockSize with
    | .error e => return (state, some e)
    | .ok block =>
      if block.isEmpty then return (state, none)
      match ← step state block with
      | .done state => return (state, none)
      | .yield state => overBlocks descriptor step rounds state

/-- The lines of a text, each with its end; the last one may have none. -/
def linesOf (stop : Char) (text : String) : List String :=
  let (lines, rest) := text.foldl (fun (lines, line) c =>
    if c = stop then (line.push c :: lines, "") else (lines, line.push c)) ([], "")
  (if rest.isEmpty then lines else rest :: lines).reverse

/-- A line without its end, and whether it has one. -/
def withoutStop (stop : Char) (line : String) : String × Bool :=
  if line.back? = some stop then ((line.dropEnd 1).toString, true) else (line, false)

/-- Reads a descriptor until its end, or until the step is done, which is given the lines that end
in a block, and at the end a line without an end. -/
def overLines {σ : Type} (descriptor : Nat) (stop : Char)
    (step : σ → List String → Act (ForInStep σ)) : (rounds : Nat) → (rest : String) → σ →
    Act (Progress σ)
  | 0, _, _ => Act.exhaust
  | rounds + 1, rest, state => do
    match ← Act.read descriptor Act.blockSize with
    | .error e => return (state, some e)
    | .ok block =>
      if block.isEmpty then
        if rest.isEmpty then return (state, none)
        match ← step state [rest] with
        | .done state | .yield state => return (state, none)
      let lines := linesOf stop (rest ++ block)
      let (whole, rest) := match lines.getLast? with
        | some last => if last.back? = some stop then (lines, "") else (lines.dropLast, last)
        | none => ([], "")
      if whole.isEmpty then overLines descriptor stop step rounds rest state
      else match ← step state whole with
        | .done state => return (state, none)
        | .yield state => overLines descriptor stop step rounds rest state

/-- Changes the lines of a list with a state; the lines that come of it in one text. -/
def changeLines {σ : Type} (change : σ → String → σ × String) (state : σ)
    (lines : List String) : σ × String :=
  lines.foldl (fun (state, text) line =>
    let (state, changed) := change state line
    (state, text ++ changed)) (state, "")

/-- Prints the lines of inputs as they are changed. -/
def printLines {σ : Type} (call : Call) (complaints : Complaints) (stop : Char)
    (change : σ → String → σ × String) (paths : List String) (state : σ) : Act (σ × Nat) :=
  let read (_ : String) (descriptor : Nat) (state : σ) : Act (Progress σ) :=
    overLines descriptor stop (fun state lines => do
      let (state, text) := changeLines change state lines
      call.print text
      return .yield state) Act.maxRounds "" state
  overInputs call complaints read (inputs paths) state

/-- Lines that are read one at a time. -/
structure Lines where
  descriptor : Nat
  stop : Char := '\n'
  /-- Lines that have been read already. -/
  ready : List String := []
  /-- The start of a line that has been read. -/
  rest : String := ""
  /-- The end was reached. -/
  ended : Bool := false
  problem : Option OsError := none
  /-- Not more than a line is read at once. -/
  sparing : Bool := false
  deriving Repr

namespace Lines

/-- Reads until a line is ready, or until the end. -/
def fill : (rounds : Nat) → Lines → Act Lines
  | 0, _ => Act.exhaust
  | rounds + 1, lines => do
    if !lines.ready.isEmpty || lines.ended then return lines
    let found ← if lines.sparing then Act.readLine lines.descriptor
      else Act.read lines.descriptor Act.blockSize
    match found with
    | .error e => return { lines with ended := true, problem := some e }
    | .ok block =>
      if block.isEmpty then
        let ready := if lines.rest.isEmpty then [] else [lines.rest]
        return { lines with ready, rest := "", ended := true }
      let found := linesOf lines.stop (lines.rest ++ block)
      match found.getLast? with
      | none => fill rounds lines
      | some last =>
        if last.back? = some lines.stop then return { lines with ready := found, rest := "" }
        else fill rounds { lines with ready := found.dropLast, rest := last }

/-- The next line with its end, if there is one. -/
def next (lines : Lines) : Act (Option String × Lines) := do
  let lines ← lines.fill Act.maxRounds
  match lines.ready with
  | [] => return (none, lines)
  | line :: ready => return (some line, { lines with ready })

/-- How many bytes have been read and not used. -/
def unused (lines : Lines) : Nat :=
  lines.ready.foldl (fun sum line => sum + line.length) lines.rest.length

end Lines

/-- The text of an input. -/
def readInput (path : String) : Act (Except OsError String) :=
  if path = "-" then Act.readAll 0 else Act.readFile path

/-- Puts back what was read too much, if the descriptor stands for a file. -/
def unread (descriptor count : Nat) : Act Unit := do
  match ← Act.channel? descriptor with
  | none => return
  | some channel =>
    Act.change fun world => match world.channel channel with
      | .file node position reads writes appends =>
        world.setChannel channel (.file node (position - count) reads writes appends)
      | _ => world

/-- The node of the file that a descriptor stands for, with the place in it and whether writing
appends. -/
def fileOf? (descriptor : Nat) : Act (Option (NodeId × Nat × Bool)) :=
  Act.view fun world => do
    match world.channel (← world.opened? descriptor) with
    | .file node position _ _ appends => some (node, position, appends)
    | _ => none

/-- The number of bytes in a file. -/
def sizeOf (node : NodeId) : Act Nat :=
  Act.viewTree fun tree _ => match tree.content node with
    | .file bytes => bytes.size
    | _ => 0

end StagedBuild.Script.Tools
