import StagedBuild.Script.Tools.Input
import StagedBuild.Script.Tools.Quantity

/-!
# Tools that show texts

Showing files one after another: as they are, or with marks that make them easier to read.
-/

namespace StagedBuild.Script.Tools

open Process

/-! ### Files one after another -/

/-- How far lines have been shown. -/
structure Shown where
  number : Nat := 0
  /-- The last line was empty. -/
  wasBlank : Bool := false
  /-- Nothing of the next line has been shown. -/
  atStart : Bool := true

/-- A character made visible: control characters with a caret, those of the upper half with `M-`. -/
def visible (c : Char) : String :=
  let low (number : Nat) : String :=
    if number < 32 then String.ofList ['^', Char.ofNat (number + 64)]
    else if number = 127 then "^?"
    else (Char.ofNat number).toString
  if c = '\n' ∨ c = '\t' then c.toString
  else if c.toNat < 128 then low c.toNat
  else "M-" ++ low (c.toNat - 128)

/-- A text with blanks before it. -/
def padLeft (width : Nat) (text : String) : String :=
  String.ofList (List.replicate (width - text.length) ' ') ++ text

/-- A line as options ask for it: with a number, with its end, tabs and other characters made
visible, or not at all if it repeats an empty line. -/
def decorate (given : Given) (shown : Shown) (line : String) : Shown × String :=
  let has (letters : List String) : Bool := letters.any given.has
  let marksEnds := has ["e", "E", "A"]
  let isBlank := shown.atStart && line == "\n"
  if has ["s"] && isBlank && shown.wasBlank then (shown, "")
  else
    let body := if marksEnds && line.endsWith "\r\n" then line.replace "\r\n" "^M\n" else line
    let body := if has ["v", "e", "t", "A"] then String.join (body.toList.map visible) else body
    let body := if has ["t", "T", "A"] then body.replace "\t" "^I" else body
    let body := if marksEnds then body.replace "\n" "$\n" else body
    let counts := shown.atStart && (if has ["b"] then !isBlank else has ["n"])
    let number := if counts then shown.number + 1 else shown.number
    let mark := if counts then padLeft 6 (toString number) ++ "\t" else ""
    (⟨number, isBlank, line.endsWith "\n"⟩, mark ++ body)

/-- Shows files one after another. -/
def cat : Tool := withOptions ("b,number-nonblank n,number s,squeeze-blank v,show-nonprinting " ++
    "E,show-ends T,show-tabs A,show-all e t u") fun given files call => do
  if (← Act.channel? 1).isNone then
    return ← call.refuse "standard output: Bad file descriptor"
  let output ← fileOf? 1
  let plain := given.all (·.1 == "u")
  let read (path : String) (descriptor : Nat) (state : Shown × Nat) :
      Act (Progress (Shown × Nat)) := do
    let (shown, status) := state
    if let (some (target, _), some (node, position, _)) := (output, ← fileOf? descriptor) then
      if target = node && position < (← sizeOf node) then
        call.complain (call.plainPath path ++ ": input file is output file")
        return ((shown, 1), none)
    if plain then
      let (_, problem) ← overBlocks descriptor (fun () block => do
        call.print block
        return .yield ()) Act.maxRounds ()
      return (state, problem)
    else
      let (shown, problem) ← overLines descriptor '\n' (fun shown lines => do
        let (shown, text) := changeLines (decorate given) shown lines
        call.print text
        return .yield shown) Act.maxRounds "" shown
      return ((shown, status), problem)
  let ((_, status), failure) ← overInputs call
    { closing := "closing standard input: Bad file descriptor" } read (inputs files) ({}, 0)
  return max status failure

/-- Copies its input to its output and to files. -/
def tee : Tool := withOptions ("a,append i,ignore-interrupts p,output-error?")
    fun given files call => do
  let access : World.Access := if given.has "a" then .appending else .writing
  let opened ← files.mapM fun path => do
    match ← Act.openPath access path with
    | .ok channel => return (path, some (← Act.hide channel))
    | .error e =>
      call.complain (call.plainPath path ++ ": " ++ e.description)
      return (path, none)
  let targets := ("standard output", 1) :: opened.filterMap fun (path, descriptor) =>
    descriptor.map (path, ·)
  let step (state : List (String × Nat) × Nat) (block : String) :
      Act (ForInStep (List (String × Nat) × Nat)) := do
    let (targets, status) := state
    let results ← targets.mapM fun (path, descriptor) => do
      match ← Act.write descriptor block with
      | .ok () => return ((path, descriptor), true)
      | .error e =>
        call.complain (call.plainPath path ++ ": " ++ e.description)
        return ((path, descriptor), false)
    let left := (results.filter (·.2)).map (·.1)
    let status := if results.all (·.2) then status else 1
    return if left.isEmpty then .done (left, status) else .yield (left, status)
  let start := if opened.any (·.2.isNone) then 1 else 0
  match ← overBlocks 0 step Act.maxRounds (targets, start) with
  | ((_, status), none) => return status
  | (_, some e) =>
    call.complain ("read error: " ++ e.description)
    if (← Act.channel? 0).isNone then
      call.complain ("standard input: " ++ e.description)
    return 1

/-- Shows the characters of each line in reverse order. -/
def rev : Tool := withOptions "0,zero" fun given files call => do
  let stop := if given.has "0" then '\x00' else '\n'
  let complaints : Complaints := {
    opening := fun _ path e => "cannot open " ++ path ++ ": " ++ e.description }
  let change (_ : Unit) (line : String) : Unit × String :=
    let (line, isWhole) := withoutStop stop line
    let turned := (call.charset.spelt line.toList).reverse.map (·.octets)
    ((), String.join turned ++ (if isWhole then stop.toString else ""))
  return (← printLines call complaints stop change files ()).2

/-! ### Folding -/

/-- A line that is being folded: its characters in reverse order, and its width. -/
structure Folded where
  done : String := ""
  line : List Char := []
  column : Nat := 0

/-- The column after a character. -/
def nextColumn (bytes : Bool) (column : Nat) (c : Char) : Nat :=
  if bytes then column + 1
  else match c with
    | '\x08' => column - 1
    | '\r' => 0
    | '\t' => column + 8 - column % 8
    | _ => column + 1

/-- Adds a character to a line, which is broken before it if it gets too long: behind the last
blank, if it `keepsWords`. -/
def Folded.add (bytes keepsWords : Bool) (width : Nat) : (tries : Nat) → Folded → Char → Folded
  | 0, folded, c => { folded with line := c :: folded.line }
  | tries + 1, folded, c =>
    let column := nextColumn bytes folded.column c
    if column ≤ width then { folded with line := c :: folded.line, column }
    else
      let broken (line rest : List Char) : Folded :=
        ⟨folded.done ++ String.ofList line.reverse ++ "\n", rest,
          rest.reverse.foldl (nextColumn bytes) 0⟩
      let word := folded.line.takeWhile fun c => c != ' ' && c != '\t'
      if keepsWords && word.length < folded.line.length then
        add bytes keepsWords width tries (broken (folded.line.drop word.length) word) c
      else if folded.line.isEmpty then { folded with line := [c], column }
      else add bytes keepsWords width tries (broken folded.line []) c

/-- Breaks long lines. -/
def fold : Tool := withOptions ("b,bytes s,spaces " ++ digits "?" ++ "w,width=")
  fun given files call => do
    let given := given.numberAs "w"
    let width ← Quantity.demandFrom call "invalid number of columns" 1
      (Quantity.mostUnsigned - 9) ((given.value? "w").getD "80")
    let change (_ : Unit) (line : String) : Unit × String :=
      let (body, isWhole) := withoutStop '\n' line
      let folded := body.foldl (Folded.add (given.has "b") (given.has "s") width 3) {}
      ((), folded.done ++ String.ofList folded.line.reverse ++ (if isWhole then "\n" else ""))
    return (← printLines call {} '\n' change files ()).2

/-! ### Tabs -/

/-- Where tabs lead to. -/
structure Stops where
  places : List Nat := []
  /-- Behind the places, at multiples of a number. -/
  every : Option Nat := none
  /-- Behind the places, at distances from the last of them. -/
  further : Option Nat := none
  deriving Repr

namespace Stops

/-- Reads one place. -/
def add (quoted : String → String) (stops : Stops) (item : List Char) :
    Except String Stops := do
  let (sign, digits) := match item with
    | '/' :: rest => (some '/', rest)
    | '+' :: rest => (some '+', rest)
    | rest => (none, rest)
  if let some c := digits.find? (!·.isDigit) then
    let rest := digits.dropWhile (· != c)
    throw ("tab size contains invalid character(s): " ++ quoted (String.ofList rest))
  if digits.isEmpty then return stops
  let place := Numeral.ofDigits 10 digits
  match sign with
  | some '/' => return { stops with every := if place = 0 then none else some place }
  | some _ => return { stops with further := if place = 0 then none else some place }
  | none =>
    if place = 0 then throw "tab size cannot be 0"
    if stops.places.getLast?.any (place ≤ ·) then throw "tab sizes must be ascending"
    return { stops with places := stops.places ++ [place] }

/-- Reads places with commas or blanks between them. -/
def ofTexts (quoted : String → String) (texts : List String) : Except String Stops := do
  let isBetween (c : Char) : Bool := c == ',' || c == ' ' || c == '\t'
  let items := texts.flatMap fun text =>
    Text.splitOn ',' (text.toList.map fun c => if isBetween c then ',' else c)
  let stops ← items.foldlM (add quoted) {}
  match stops with
  | ⟨[], none, none⟩ => return { every := some 8 }
  | ⟨[], none, some further⟩ => return { every := some further }
  | ⟨[place], none, none⟩ => return { every := some place }
  | stops => return stops

/-- The next place behind a column, if there is one. -/
def next? (stops : Stops) (column : Nat) : Option Nat :=
  stops.places.find? (column < ·) <|>
    (stops.every.map fun size => column + (size - column % size)) <|>
    (stops.further.map fun size =>
      column + (size - (column - stops.places.getLastD 0) % size))

end Stops

/-- How far a line has been expanded. -/
structure Expanded where
  column : Nat := 0
  /-- Tabs are still replaced in this line. -/
  isOn : Bool := true

/-- Replaces tabs of a line by blanks; only those at its start, if that is asked for. -/
def expandChar (stops : Stops) (atStart : Bool) (state : Expanded × String) (c : Char) :
    Expanded × String :=
  let (⟨column, isOn⟩, text) := state
  if c = '\n' then ({}, text.push c)
  else if !isOn then (⟨column, isOn⟩, text.push c)
  else
    let isOn := !atStart || c == ' ' || c == '\t'
    match c with
    | '\t' =>
      let next := (stops.next? column).getD (column + 1)
      (⟨next, isOn⟩, text ++ String.ofList (List.replicate (next - column) ' '))
    | '\x08' => (⟨column - 1, isOn⟩, text.push c)
    | _ => (⟨column + 1, isOn⟩, text.push c)

/-- Replaces tabs by blanks. -/
def expand : Tool := withOptions ("i,initial " ++ digits "?" ++ "t,tabs=")
  fun given files call => do
    let given := given.numberAs "t"
    match Stops.ofTexts call.quoted (given.values "t") with
    | .error problem => call.refuse problem
    | .ok stops =>
      let change (state : Expanded) (line : String) : Expanded × String :=
        line.foldl (expandChar stops (given.has "i")) (state, "")
      return (← printLines call {} '\n' change files {}).2

/-- How far blanks of a line have been gathered. -/
structure Gathered where
  column : Nat := 0
  isOn : Bool := true
  /-- Blanks that may become a tab. -/
  pending : String := ""
  /-- One of them stands just before a place of a tab. -/
  isSingle : Bool := false
  afterBlank : Bool := true

/-- Takes one more character of a line whose blanks become tabs. -/
def gatherChar (stops : Stops) (everywhere : Bool) (state : Gathered × String) (c : Char) :
    Gathered × String :=
  let (line, text) := state
  if !line.isOn then (if c = '\n' then {} else line, text.push c)
  else
    let isBlank := c == ' ' || c == '\t'
    /- What is written before the character, and the line from there. -/
    let flush (line : Gathered) (c : Char) : Gathered × String :=
      let pending := if 1 < line.pending.length && line.isSingle then
        "\t" ++ (line.pending.drop 1).toString else line.pending
      let line := { line with
        pending := "", isSingle := line.isSingle && line.pending.isEmpty
        afterBlank := isBlank, isOn := line.isOn && (everywhere || isBlank) }
      (if c = '\n' then {} else line, text ++ pending ++ c.toString)
    if !isBlank then
      let column := if c = '\x08' then line.column - 1 else line.column + 1
      flush { line with column } c
    else match stops.next? line.column with
      | none => flush { line with isOn := false } c
      | some next =>
        let keep := if line.isSingle then "\t" else ""
        if c = '\t' then flush { line with column := next, pending := keep } c
        else
          let column := line.column + 1
          if line.afterBlank && column = next then
            flush { line with column, pending := keep } '\t'
          else ({ line with
            column, pending := line.pending.push c, afterBlank := true
            isSingle := line.isSingle || column = next }, text)

/-- Replaces blanks by tabs: those at the start of a line, or all. -/
def unexpand : Tool := withOptions (digits "" ++ "t,tabs= a,all ,first-only")
  fun given files call => do
    let everywhere := (given.has "a" || given.has "t") && !given.has "first-only"
    let typed := String.join ((given.filter fun (key, _) => key.toList.any Char.isDigit).map (·.1))
    let texts := given.values "t" ++ (if typed.isEmpty then [] else [typed])
    match Stops.ofTexts call.quoted texts with
    | .error problem => call.refuse problem
    | .ok stops =>
      let change (state : Gathered) (line : String) : Gathered × String :=
        let (state, text) := line.foldl (gatherChar stops everywhere) (state, "")
        if line.endsWith "\n" then (state, text)
        else ({ state with pending := "" }, text ++ state.pending)
      return (← printLines call {} '\n' change files {}).2

/-! ### Side by side -/

/-- The texts that stand between pasted lines, in turn. -/
def separators : List Char → Except Unit (List String)
  | [] => .ok []
  | ['\\'] => .error ()
  | '\\' :: c :: rest => do
    let meaning := [('0', ""), ('b', "\x08"), ('f', "\x0c"), ('n', "\n"), ('r', "\r"),
      ('t', "\t"), ('v', "\x0b")]
    return (meaning.lookup c).getD c.toString :: (← separators rest)
  | c :: rest => return c.toString :: (← separators rest)

/-- A line of each input, if there is one left; inputs that are the same take turns. -/
def nextOfEach (stop : Char) : List Nat → List (Nat × Lines) →
    Act (List (Option String) × List (Nat × Lines))
  | [], sources => return ([], sources)
  | descriptor :: descriptors, sources => do
    let source := (sources.lookup descriptor).getD { descriptor, stop }
    let (line, source) ← source.next
    let sources := (descriptor, source) :: sources.filter (·.1 != descriptor)
    let (lines, sources) ← nextOfEach stop descriptors sources
    return (line :: lines, sources)

/-- Lines with the separators in turn between them. -/
def pasted (between : List String) (stop : String) (lines : List String) : String :=
  let gap (i : Nat) : String := (between[i % between.length]?).getD ""
  let parts := lines.zipIdx.map fun (line, i) => (if i = 0 then "" else gap (i - 1)) ++ line
  String.join parts ++ stop

/-- Prints lines of all inputs side by side until all have ended. -/
def pasteLines (call : Call) (between : List String) (stop : Char)
    (columns : List (String × Nat)) : (rounds : Nat) → List (Nat × Lines) → Act Nat
  | 0, _ => Act.exhaust
  | rounds + 1, sources => do
    let wasTroubled (path : String × Nat) : Bool :=
      (sources.lookup path.2).any (·.problem.isSome)
    let (lines, sources) ← nextOfEach stop (columns.map (·.2)) sources
    for (path, descriptor) in columns do
      if let some e := (sources.lookup descriptor).bind (·.problem) then
        if !wasTroubled (path, descriptor) then
          call.complain (call.plainPath path ++ ": " ++ e.description)
    if lines.all Option.isNone then
      return if sources.any (·.2.problem.isSome) then 1 else 0
    let shown := lines.map fun line => (withoutStop stop (line.getD "")).1
    call.print (pasted between stop.toString shown)
    pasteLines call between stop columns rounds sources

/-- Puts lines of files side by side, or all lines of each file. -/
def paste : Tool := withOptions "s,serial d,delimiters= z,zero-terminated" fun given files call => do
  let stop := if given.has "z" then '\x00' else '\n'
  let list := (given.value? "d").getD "\t"
  let .ok between := separators list.toList
    | call.refuse ("delimiter list ends with an unescaped backslash: " ++ list)
  let between := if between.isEmpty then [""] else between
  if given.has "s" then
    let read (_ : String) (descriptor : Nat) (_ : Unit) : Act (Progress Unit) := do
      let (lines, problem) ← overLines descriptor stop (fun found lines =>
        return .yield (found ++ lines)) Act.maxRounds "" []
      call.print (pasted between stop.toString (lines.map fun line => (withoutStop stop line).1))
      return ((), problem)
    return (← overInputs call {} read (inputs files) ()).2
  else
    let columns ← (inputs files).mapM fun path => do
      if path = "-" then return (path, 0)
      match ← Act.openPath .reading path with
      | .ok channel => return (path, ← Act.hide channel)
      | .error e => call.giveUp (call.plainPath path ++ ": " ++ e.description)
    let status ← pasteLines call between stop columns Act.maxRounds []
    if columns.any (·.2 = 0) && (← Act.channel? 0).isNone then
      call.complain "-: Bad file descriptor"
      return 1
    return status

end StagedBuild.Script.Tools
