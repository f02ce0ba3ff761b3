import StagedBuild.Regex.Match
import StagedBuild.Regex.Reader
import StagedBuild.Script.Pattern
import StagedBuild.Script.Tools.Input
import StagedBuild.Script.Tools.Quantity

/-!
# Finding lines

Showing the lines of files that match one of several patterns, or parts of them, with lines around
them, or only which files have such lines and how many.
-/

namespace StagedBuild.Script.Tools.Grep

open Process

/-- How a pattern has to match. -/
inductive Extent where
  | anywhere
  | words
  | lines
  deriving DecidableEq

/-- What is shown. -/
inductive Output where
  | lines
  | parts
  | counts
  /-- The names of the files that have such lines, or that have none. -/
  | names (having : Bool)
  | nothing
  deriving DecidableEq

/-- What is done with files that are no text. -/
inductive Binary where
  | noted
  | asText
  | skipped
  deriving DecidableEq

/-- What was asked for. -/
structure Settings where
  patterns : List Regex
  extent : Extent
  inverted : Bool
  output : Output
  named : Bool
  numbered : Bool
  placed : Bool
  /-- Lines start at a tab. -/
  aligned : Bool
  /-- A null character stands behind names. -/
  nullNames : Bool
  label : String
  before : Nat
  after : Nat
  separator : Option String
  most : Option Nat
  stop : Char
  binary : Binary
  quiet : Bool
  charset : Text.Charset
  /-- The file that the output goes to. -/
  target : Option NodeId

/-- The first match from a place on, of this extent. -/
def matchFrom? (extent : Extent) (search : Regex.Search) (place : Nat) : Option Regex.Match :=
  match extent with
  | .anywhere => search.from? place
  | .lines =>
    if place = 0 && (search.endsAt 0).head? = some search.size then
      some { start := 0, stop := search.size }
    else none
  | .words =>
    let isWord (place : Nat) : Bool :=
      (search.units[place]?).any fun unit => (unit.char.map Text.isWordChar).getD false
    let fits (start stop : Nat) : Bool :=
      !(start != 0 && isWord (start - 1)) && !isWord stop
    (List.range (search.size + 1 - place)).findSome? fun i =>
      let start := place + i
      ((search.endsAt start).find? (fits start)).map fun stop => { start, stop }

/-- The line has a match. -/
def isMatched (settings : Settings) (searches : List Regex.Search) : Bool :=
  searches.any fun search => match settings.extent with
    | .anywhere => search.succeeds
    | extent => (matchFrom? extent search 0).isSome

/-- The stretches of a line that match, each as early and as long as possible. -/
def parts (settings : Settings) (searches : List Regex.Search) (size : Nat) :
    (count : Nat) → (place : Nat) → List Regex.Match
  | 0, _ => []
  | count + 1, place =>
    let found := searches.filterMap fun search => matchFrom? settings.extent search place
    let best := found.foldl (fun (best : Option Regex.Match) one => match best with
      | none => some one
      | some other =>
        if one.start < other.start || (one.start == other.start && other.stop < one.stop) then
          some one else best) none
    match best with
    | none => []
    | some one =>
      if one.stop = one.start then
        if size ≤ one.start then [] else parts settings searches size count (one.start + 1)
      else one :: parts settings searches size count one.stop

/-- How far a file has been searched. -/
structure Searched where
  number : Nat := 0
  offset : Nat := 0
  count : Nat := 0
  /-- The last lines, the nearest first, with their numbers and offsets. -/
  recent : List (Nat × Nat × String) := []
  /-- How many lines are still shown behind the last one. -/
  pending : Nat := 0
  /-- The number of the last line that was shown. -/
  shown : Option Nat := none
  /-- The file is no text: nothing more is shown of it. -/
  isBinary : Bool := false
  /-- Lines were left out that are no text. -/
  hasOmitted : Bool := false
  isDone : Bool := false
  /-- What is printed. -/
  text : String := ""

/-- The text spells characters. -/
def isText (charset : Text.Charset) (line : String) : Bool :=
  charset == .ascii || line.toList.all (·.toNat < 128) ||
    (charset.spelt line.toList).all (·.char.isSome)

/-- What stands before a line: the file, the number, and the place. -/
def heading (settings : Settings) (path : String) (sign : String) (number offset : Nat) : String :=
  let shown (number : Nat) : String :=
    (if settings.aligned && number < 10 then " " else "") ++ toString number ++ sign
  let parts := (if settings.named then path ++ (if settings.nullNames then "\x00" else sign)
      else "") ++
    (if settings.numbered then shown number else "") ++ (if settings.placed then shown offset else "")
  if settings.aligned && !parts.isEmpty then parts ++ "\t" else parts

/-- Shows a line: one that was searched for, or one around it. -/
def showLine (settings : Settings) (path : String) (state : Searched) (isFound : Bool)
    (line : Nat × Nat × String) : Searched :=
  let (number, offset, body) := line
  if state.isBinary || state.shown.any (number ≤ ·) then state
  else if settings.binary != .asText && !isText settings.charset body then
    { state with hasOmitted := true }
  else
    let gap := match state.shown, settings.separator with
      | some last, some separator => if last + 1 < number then separator ++ "\n" else ""
      | _, _ => ""
    { state with
      shown := some number
      text := state.text ++ gap ++
        heading settings path (if isFound then ":" else "-") number offset ++
        body.push settings.stop }

/-- Shows the parts of a line that match. -/
def showParts (settings : Settings) (path : String) (searches : List Regex.Search)
    (state : Searched) (line : Nat × Nat × String) : Searched :=
  let (number, offset, _) := line
  if state.isBinary then state
  else
    let size := (searches.head?.map (·.size)).getD 0
    (parts settings searches size (size + 1) 0).foldl (fun state one =>
      match searches.head? with
      | none => state
      | some search =>
        let text := search.text one.start one.stop
        if settings.binary != .asText && !isText settings.charset text then
          { state with hasOmitted := true }
        else { state with
          shown := some number
          text := state.text ++
            heading settings path ":" number (offset + (search.text 0 one.start).length) ++
            text.push settings.stop }) { state with shown := some number }

/-- Searches one more line. -/
def next (settings : Settings) (path : String) (state : Searched) (line : String) : Searched :=
  if state.isDone then state
  else
    let (body, _) := withoutStop settings.stop line
    let number := state.number + 1
    let entry := (number, state.offset, body)
    let searches := settings.patterns.map fun pattern => Regex.searchIn pattern body
    let isFull := settings.most.any (· ≤ state.count)
    let isSelected := !isFull && (isMatched settings searches != settings.inverted)
    let state := { state with number, offset := state.offset + line.length }
    if isSelected then
      let state := { state with count := state.count + 1, pending := settings.after }
      let state := match settings.output with
        | .lines =>
          let state := state.recent.reverse.foldl (showLine settings path · false ·) state
          showLine settings path { state with recent := [] } true entry
        | .parts => if settings.inverted then state
          else showParts settings path searches { state with recent := [] } entry
        | _ => state
      let isOver := settings.most.any (· ≤ state.count) && (state.pending = 0 ||
        settings.output != .lines)
      let isEnough := match settings.output with
        | .names _ | .nothing => true
        | .counts => false
        | _ => state.isBinary
      { state with isDone := state.isDone || isOver || isEnough }
    else if 0 < state.pending && settings.output = .lines then
      let state := showLine settings path { state with pending := state.pending - 1 } false entry
      { state with isDone := state.isDone || (isFull && state.pending = 0) }
    else { state with
      recent := ((number, entry.2.1, body) :: state.recent).take settings.before
      isDone := state.isDone || isFull }

/-- Searches lines until nothing more is wanted; the lines that are left. -/
def nextAll (settings : Settings) (path : String) (state : Searched) :
    List String → Searched × List String
  | [] => (state, [])
  | line :: rest =>
    if state.isDone then (state, line :: rest)
    else nextAll settings path (next settings path state line) rest

/-- Searches the lines of a block, which are no text if one has a null character. Behind the last
line that is wanted nothing is read. -/
def nextLines (call : Call) (settings : Settings) (path : String) (descriptor : Nat)
    (state : Searched) (lines : List String) : Act (ForInStep Searched) := do
  let hasNull := settings.stop != '\x00' && settings.binary != .asText &&
    lines.any (·.contains '\x00')
  if hasNull && settings.binary == .skipped then
    return .done { state with isDone := true, count := 0, text := "" }
  let state := if !hasNull then state
    else { state with isBinary := true }
  let lines := if !state.isBinary then lines
    else lines.flatMap fun line => linesOf '\n' (line.map fun c => if c = '\x00' then '\n' else c)
  let (state, rest) := nextAll settings path state lines
  call.print state.text
  let state := { state with text := "" }
  if state.isDone then
    if settings.most.isSome then
      unread descriptor (rest.foldl (fun sum line => sum + line.length) 0)
    return .done state
  return .yield state

/-- The outcome for all files so far. -/
structure Outcome where
  found : Bool := false
  failed : Bool := false

/-- Complains about a file. -/
def trouble (call : Call) (isSilent : Bool) (path problem : String) (outcome : Outcome) :
    Act Outcome := do
  if !isSilent then call.complain (path ++ ": " ++ problem)
  return { outcome with failed := true }

/-- Searches an open file. -/
def searchFile (call : Call) (settings : Settings) (isSilent : Bool) (path : String)
    (descriptor : Nat) (outcome : Outcome) : Act Outcome := do
  let shown := if path = "-" then settings.label else path
  let printsLines := settings.output == .lines || settings.output == .parts ||
    settings.output == .counts
  if printsLines && settings.most.all (1 < ·) && settings.target.isSome && descriptor != 0 then
    if (← fileOf? descriptor).map (·.1) == settings.target then
      return ← trouble call false shown "input file is also the output" outcome
  let start : Searched := { isDone := settings.most == some 0 }
  let (state, problem) ← if start.isDone then pure (start, none) else
    overLines descriptor settings.stop (nextLines call settings shown descriptor)
      Act.maxRounds "" start
  if let some e := problem then
    return ← trouble call isSilent shown e.description outcome
  if ((state.isBinary && 0 < state.count) || state.hasOmitted) &&
      (settings.output == .lines || settings.output == .parts) then
    call.complain (shown ++ ": binary file matches")
  let stop := if settings.nullNames then "\x00" else "\n"
  let name := if settings.named then
    shown ++ (if settings.nullNames then "\x00" else ":") else ""
  match settings.output with
  | .counts => call.print (name ++ toString state.count ++ "\n")
  | .names having => if (0 < state.count) == having then call.print (shown ++ stop)
  | _ => pure ()
  let outcome := { outcome with found := outcome.found || 0 < state.count }
  if settings.quiet && outcome.found then Act.exit 0
  return outcome

/-- The files below a directory, with paths that start with that of the directory. -/
def filesBelow (tree : FileTree) (skips : String → Bool → Bool) :
    (depth : Nat) → (path : String) → NodeId → List String
  | 0, _, _ => []
  | depth + 1, path, id => (tree.entries id).flatMap fun (name, child) =>
      let inner := FilePath.join path name
      match tree.content child with
      | .directory .. => if skips name true then [] else filesBelow tree skips depth inner child
      | .file _ => if skips name false then [] else [inner]
      | _ => []

/-- Searches files, and what is below directories if that is asked for. -/
def searchAll (call : Call) (settings : Settings) (isSilent recursive skipsDirs : Bool)
    (skips : String → Bool → Bool) : List String → Outcome → Act Outcome
  | [], outcome => return outcome
  | path :: paths, outcome => do
    let outcome ← if path = "-" then searchFile call settings isSilent path 0 outcome else do
      let place := if path.isEmpty then "." else path
      let isDirectory ← Act.viewTree fun tree dir => tree.leadsToDirectory dir place
      if isDirectory && recursive then
        let inner ← Act.viewTree fun tree dir => match tree.find dir place with
          | .ok id => filesBelow tree skips 1000 path id
          | .error _ => []
        inner.foldlM (fun outcome inner => one inner outcome) outcome
      else if isDirectory && skipsDirs then pure outcome
      else if !isDirectory && skips path false then pure outcome
      else one path outcome
    searchAll call settings isSilent recursive skipsDirs skips paths outcome
where
  /-- Searches one file. -/
  one (path : String) (outcome : Outcome) : Act Outcome := do
    match ← Act.withFile .reading path fun descriptor =>
        searchFile call settings isSilent path descriptor outcome with
    | .ok outcome => return outcome
    | .error e => trouble call isSilent path e.description outcome

/-- The dialects of basic and of extended patterns. -/
def basic : Regex.Dialect := { Regex.Dialect.basic with repeatsOnce := false }
@[inherit_doc basic] def extended : Regex.Dialect :=
  { Regex.Dialect.full with bare := .skipped, looseCounts := true, looseGroups := true }

/-- The text as a pattern in which every character stands for itself. -/
def fixed (charset : Text.Charset) (text : String) : Regex.Written :=
  (charset.spelt text.toList).foldr (fun unit rest => .pair (.one (.exactly unit.octets)) rest) .empty

/-- Warns about a sign for repeating that has nothing before it. -/
def warnings (isExtended : Bool) (text : String) : List String :=
  match text.toList, isExtended with
  | c :: _, true =>
    if c = '*' ∨ c = '+' ∨ c = '?' then
      ["warning: " ++ c.toString ++ " at start of expression"]
    else if c = '\x7b' then ["warning: \x7b...\x7d at start of expression"]
    else []
  | _, _ => []

/-- Reads a pattern, or complains. -/
def readPattern (call : Call) (kind : String) (ignoresCase : Bool) (text : String) : Act Regex := do
  let charset := call.charset
  if kind = "F" then return { expr := fixed charset text, charset, ignoresCase }
  let isName (inside : List Char) : Bool := match inside, inside.reverse with
    | ':' :: _ :: _, ':' :: _ => true
    | _, _ => false
  if text.startsWith "[" && text.endsWith "]" &&
      isName ((text.toList.drop 1).dropLast) && !(text.toList.drop 1).dropLast.contains ']' then
    call.giveUp "character class syntax is [[:space:]], not [:space:]"
  let dialect := if kind = "G" then basic else extended
  match Regex.read dialect charset text with
  | .ok parsed =>
    for warning in warnings (kind != "G") text do call.complain warning
    return { expr := parsed.expr, charset, ignoresCase }
  | .error problem => call.giveUp problem.message

/-- A number of lines around those that match. -/
def contextLength (call : Call) (text : String) : Act Nat := do
  match Quantity.read Quantity.commonUnits Quantity.mostUnsigned text with
  | .ok value => return value
  | .error .tooGreat => return Quantity.mostUnsigned
  | .error _ => call.giveUp (text ++ ": invalid context length argument")

/-- The options of the tool. -/
def options : String :=
  "E,extended-regexp F,fixed-strings G,basic-regexp P,perl-regexp e,regexp= f,file= " ++
    "i,ignore-case y ,no-ignore-case w,word-regexp x,line-regexp z,null-data s,no-messages " ++
    "v,invert-match V m,max-count= b,byte-offset n,line-number ,line-buffered H,with-filename " ++
    "h,no-filename ,label= o,only-matching q,quiet,silent ,binary-files= a,text I " ++
    "d,directories= D,devices= r,recursive R,dereference-recursive ,include= ,exclude= " ++
    ",exclude-from= ,exclude-dir= L,files-without-match l,files-with-matches c,count " ++
    "T,initial-tab Z,null B,before-context= A,after-context= C,context= ,color?,colour? " ++
    ",colour? ,group-separator= ,no-group-separator U,binary u 0 1 2 3 4 5 6 7 8 9"

/-- The patterns that options name, or the first argument, and the arguments behind it. -/
def patternTexts (call : Call) (given : Given) (args : List String) :
    Act (List String × List String) := do
  let texts ← given.filterMapM fun (option, value) => do
    if option = "e" then return some value
    if option = "f" then
      match ← readInput value with
      | .ok text => return some (withoutStop '\n' text).1
      | .error e => call.giveUp (value ++ ": " ++ e.description)
    else return none
  let lines (text : String) : List String := (Text.splitOn '\n' text.toList).map String.ofList
  let isEmptyFile := (given.filter fun (option, _) => option == "e" || option == "f").all fun
    (option, _) => option == "f"
  if given.has "e" || given.has "f" then
    let all := texts.flatMap lines
    return (if isEmptyFile && texts.all (·.isEmpty) then [] else all, args)
  match args with
  | [] => Act.exit (← call.advise)
  | text :: args => return (lines text, args)

/-- Shows the lines that match patterns. -/
def tool (kind : Option String) : Tool := fun call =>
  let call := { call with
    name := "grep", trouble := 2, usage := "Usage: grep [OPTION]... PATTERNS [FILE]...\n" }
  withOptions options (fun given args call => do
    let kinds := kind.toList ++ (given.filter fun (option, _) =>
      ["E", "F", "G", "P"].contains option).map (·.1)
    let kind := kinds.getLastD "G"
    if kinds.any (· != kind) then call.giveUp "conflicting matchers specified"
    let (texts, files) ← patternTexts call given args
    let ignoresCase := match given.last? ["i", "y", "no-ignore-case"] with
      | some option => option != "no-ignore-case"
      | none => false
    let most ← (given.value? "m").mapM fun text => do
      match Quantity.read Quantity.commonUnits Quantity.mostUnsigned text with
      | .ok value => return value
      | .error _ =>
        if text.startsWith "-" then return Quantity.mostUnsigned
        call.giveUp "invalid max count"
    let digits := String.join ((given.filter fun (option, _) =>
      option.all Char.isDigit).map (·.1))
    let context ← match given.value? "C", digits with
      | some text, _ => contextLength call text
      | none, "" => pure 0
      | none, digits => pure (Numeral.ofDigits 10 digits.toList)
    let before ← ((given.value? "B").mapM (contextLength call) : Act (Option Nat))
    let after ← ((given.value? "A").mapM (contextLength call) : Act (Option Nat))
    let hasContext := ["A", "B", "C"].any given.has || !digits.isEmpty
    let patterns ← texts.mapM (readPattern call kind ignoresCase)
    let recursive := given.has "r" || given.has "R" || given.value? "d" == some "recurse"
    let files := if !files.isEmpty then files else if recursive then [""] else ["-"]
    let isDir ← files.mapM fun path =>
      Act.viewTree fun tree dir => tree.leadsToDirectory dir (if path.isEmpty then "." else path)
    let named := match given.last? ["H", "h"] with
      | some option => option == "H"
      | none => 1 < files.length || (recursive && isDir.any id)
    let output : Output := if given.has "q" then .nothing
      else match given.last? ["l", "L"] with
        | some option => .names (option == "l")
        | none => if given.has "c" then .counts else if given.has "o" then .parts else .lines
    let settings : Settings := {
      patterns, inverted := given.has "v", output, named
      extent := if given.has "x" then .lines else if given.has "w" then .words else .anywhere
      numbered := given.has "n", placed := given.has "b", aligned := given.has "T"
      nullNames := given.has "Z"
      label := (given.value? "label").getD "(standard input)"
      before := before.getD context, after := after.getD context
      separator := if given.has "no-group-separator" || !hasContext then none
        else some ((given.value? "group-separator").getD "--")
      most, stop := if given.has "z" then '\x00' else '\n'
      binary := if given.has "a" || given.value? "binary-files" == some "text" then .asText
        else if given.has "I" || given.value? "binary-files" == some "without-match" then .skipped
        else .noted
      quiet := given.has "q", charset := call.charset
      target := (← fileOf? 1).map (·.1) }
    let glob (option name : String) : Bool := (given.values option).any fun text =>
      Pattern.accepts (text.toList.map fun char => { char }) name
    let skips (path : String) (isDirectory : Bool) : Bool :=
      let name := ((FilePath.segments path).getLast?).getD path
      if isDirectory then glob "exclude-dir" name
      else glob "exclude" name || (given.has "include" && !glob "include" name)
    let outcome ← searchAll { call with name := "grep" } settings (given.has "s") recursive
      (given.value? "d" == some "skip") skips files {}
    return if outcome.failed then 2 else if outcome.found then 0 else 1) call

end StagedBuild.Script.Tools.Grep
