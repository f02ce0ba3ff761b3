import StagedBuild.Script.Tools.Finding.Reader

/-!
# Finding files

Files are looked for below the paths that are given, and an expression says what is done with them.
-/

namespace StagedBuild.Script.Tools.Finding

open Process

/-- What has come of a search so far. -/
structure Progress where
  status : Nat := 0
  /-- What is below the current directory does not count. -/
  pruned : Bool := false
  ended : Bool := false
  /-- The files for programs that are started with many at a time, the last first, each with its
  directory. -/
  waiting : Array (List (String × String)) := #[]

/-- What a search goes by. -/
structure Setup where
  call : Call
  execute : Execute
  search : Search
  now : Int

/-- A part of a search. -/
abbrev Walk (α : Type) := ReaderT Setup (StateT Progress Act) α

namespace Walk

/-- Complains about a path. -/
def complain (path problem : String) : Walk Unit := do
  let call := (← read).call
  call.complain (call.quoted path ++ ": " ++ problem)
  modify fun progress => { progress with status := 1 }

/-- The answer to a question about a file. -/
def answer (found : Found) (now : Int) (tree : FileTree) (dir : NodeId) : Test → Bool
  | .always answer => answer
  | .name shape => shape.fits (cutPath found.path).2
  | .path shape => shape.fits found.path
  | .expression regex =>
    let search := regex.searchIn found.path
    (search.endsAt 0).contains search.size
  | .leadsTo shape => (tree.link? found.node).any shape.fits
  | .kind letters across =>
    let letter := if across then
        (if found.node = found.link then kindAcross tree dir found
          else kindLetter tree found.link)
      else kindLetter tree found.node
    letters.contains (if letter = 'N' || letter = 'L' then 'l' else letter)
  | .size bound unit => bound.holds ((Listing.sizeIn tree found.node + unit - 1) / unit : Nat)
  | .empty =>
    match tree.content found.node with
    | .file bytes => bytes.isEmpty
    | .directory entries _ => entries.isEmpty
    | _ => false
  | .newer time => time < (tree.node found.node).changed
  | .age bound unit =>
    let age := (now - (tree.node found.node).changed).fdiv (unit * Calendar.billion)
    match bound.sign with
    | some '+' => if unit = 60 then (bound.count : Int) ≤ age else (bound.count : Int) < age
    | some '-' => age < bound.count
    | _ => if unit = 60 then age + 1 = bound.count else age = bound.count
  | .rights wanted rights =>
    let own := (tree.node found.node).rights &&& allRights
    match wanted with
    | .exactly => own == rights
    | .all => own &&& rights == rights
    | .any => rights == 0 || own &&& rights != 0
  | .names bound => bound.holds (tree.node found.node).names
  | .number bound => bound.holds (found.node + 2)
  | .owner bound => bound.holds 0
  | .same node => found.node == node
  | .allowed toRun =>
    !toRun || tree.isDirectory found.node || (tree.node found.node).rights &&& 73 != 0

/-- Writes to an outlet. -/
def put (outlet : Outlet) (text : String) : Walk Unit := do
  if outlet = 1 then (← read).call.print text
  else
    let _ ← Act.write outlet text

/-- Starts a program, in a directory if one is given; whether it was successful. -/
def start (args : List String) (dir : Option String) : Walk Bool := do
  let setup ← read
  let name := args.headD ""
  let child ← Act.fork (do
    if let some dir := dir then
      if let .ok id ← Act.find dir then
        Act.change (·.setActor fun process => { process with dir := id })
    let e ← setup.execute { setup.call with name, args := args.tail }
    setup.call.complain (setup.call.quoted name ++ ": " ++ e.description)
    return .status 1)
  return (← Act.waitFor child) == .status 0

/-- Starts a program that was kept back, with the files that have come together for it. -/
def startMany (number : Nat) (args : List String) (inPlace : Bool) : Walk Unit := do
  let files := ((← get).waiting.getD number []).reverse
  modify fun progress => { progress with
    waiting := progress.waiting.setIfInBounds number [] }
  if !files.isEmpty then
    let dir := if inPlace then files.head?.map (·.1) else none
    if !(← start (args ++ files.map (·.2)) dir) then
      modify fun progress => { progress with status := 1 }

/-- How a file is called in its own directory. -/
def localPath (found : Found) : String × String :=
  let (above, name) := cutPath found.path
  if name.startsWith "/" then ("/", name)
  else (if above.isEmpty then "/" else above, "./" ++ name)

/-- How long the names of files for a program may be together. -/
def mostTogether : Nat := 128000

/-- Does something with a file; whether that was successful. -/
def perform (found : Found) (deed : Deed) : Walk Bool := do
  let setup ← read
  match deed with
  | .print outlet stop =>
    put outlet (found.path ++ stop)
    return true
  | .show outlet pieces =>
    put outlet (← Act.viewTree fun tree dir => shown tree dir found pieces)
    return true
  | .list =>
    let line ← (Act.viewTree fun tree _ =>
      let node := tree.node found.node
      let pad (width : Nat) (text : String) : String :=
        String.ofList (List.replicate (width - text.length) ' ') ++ text
      pad 9 (toString (found.node + 2)) ++ pad 7 (toString (Listing.blocksIn tree found.node)) ++
        " " ++ (Listing.letterOf tree found.node).1.toString ++ rightsText node.rights ++ " " ++
        pad 3 (toString node.names) ++ " root     root     " ++
        pad 8 (toString (Listing.sizeIn tree found.node)) ++ " " ++
        (Moment.ofNanos node.changed).inFormat "%b %e %H:%M" ++ " " ++ found.path ++
        ((tree.link? found.node).map (" -> " ++ ·)).getD "" ++ "\n" : Act String)
    put 1 line
    return true
  | .prune =>
    modify fun progress => { progress with pruned := true }
    return true
  | .quit =>
    modify fun progress => { progress with ended := true }
    return true
  | .delete =>
    if found.path = "." then return true
    let result ← Act.changeTree fun tree dir =>
      if tree.isDirectory found.node then tree.removeDirectory dir found.path
      else tree.unlink dir found.path
    match result with
    | .ok () => return true
    | .error e =>
      setup.call.complain ("cannot delete " ++ setup.call.quoted found.path ++ ": " ++
        e.description)
      modify fun progress => { progress with status := 1 }
      return false
  | .run args inPlace asks =>
    let (dir, path) := if inPlace then localPath found else ("", found.path)
    if asks then
      let _ ← Act.write 2 ("< " ++ args.headD "" ++ " ... " ++ found.path ++ " > ? ")
      let reply := (← Act.readLine 0).toOption.getD ""
      if ! (['y', 'Y'].contains (reply.toList.headD ' ')) then return false
    start (args.map fun arg => arg.replace "\x7b\x7d" path) (if inPlace then some dir else none)
  | .runMany number args inPlace =>
    let (dir, path) := if inPlace then localPath found else ("", found.path)
    let waiting := (← get).waiting.getD number []
    let together := waiting.foldl (fun sum file => sum + file.2.length + 1) path.length
    if mostTogether < together || waiting.head?.any (·.1 != dir) then startMany number args inPlace
    modify fun progress => { progress with
      waiting := progress.waiting.modify number ((dir, path) :: ·) }
    return true

/-- Goes through an expression for a file; whether it holds. -/
def evaluate (found : Found) : Expr → Walk Bool
  | .test test => do
    let setup ← read
    Act.viewTree fun tree dir => answer found setup.now tree dir test
  | .deed deed => perform found deed
  | .not body => return !(← evaluate found body)
  | .both first second => do
    if (← evaluate found first) && !(← get).ended then evaluate found second else return false
  | .either first second => do
    let holds ← evaluate found first
    if holds || (← get).ended then return holds else evaluate found second
  | .inTurn first second => do
    let _ ← evaluate found first
    if (← get).ended then return false else evaluate found second

/-- Goes through the expression for a file, if it is deep enough. -/
def visit (found : Found) : Walk Unit := do
  let search := (← read).search
  if search.leastDepth ≤ found.depth && !(← get).ended then
    let _ ← evaluate found search.expr

/-- Looks at what there is at a path, and then below it. Directories above it are given with their
paths. -/
def walk : (fuel : Nat) → (above : List (NodeId × String)) → (top path : String) → (depth : Nat) →
    Walk Unit
  | 0, _, _, _, _ => Act.exhaust
  | fuel + 1, above, top, path, depth => do
    if (← get).ended then return
    let search := (← read).search
    let follows := if depth = 0 then search.followsFirst || search.follows else search.follows
    let here ← Act.find path false
    let there ← if follows then Act.find path else pure here
    match here, there with
    | .error e, .error _ => complain path e.description
    | here, there =>
      let link := (here.toOption <|> there.toOption).getD 0
      let node := (there.toOption <|> here.toOption).getD 0
      let found : Found := { path, top, depth, node, link }
      let isDirectory ← Act.viewTree fun tree _ => tree.isDirectory node
      if let some (_, other) := above.find? (·.1 == node) then
        let call := (← read).call
        call.complain ("File system loop detected; " ++ call.quoted path ++
          " is part of the same file system loop as " ++ call.quoted other ++ ".")
        modify fun progress => { progress with status := 1 }
        return
      modify fun progress => { progress with pruned := false }
      if !search.deepFirst then visit found
      let isOpen := isDirectory && !(← get).ended && (search.deepFirst || !(← get).pruned) &&
        search.mostDepth.all (depth < ·)
      if isOpen then
        if (← Act.find path).toBool then
          let names ← Act.viewTree fun tree _ => tree.children node
          for name in names do
            walk fuel ((node, path) :: above) top (FilePath.join path name) (depth + 1)
        else complain path "No such file or directory"
      if search.deepFirst then visit found

/-- Starts all programs that have been kept back. -/
def finish : Expr → Walk Unit
  | .deed (.runMany number args inPlace) => startMany number args inPlace
  | .test _ | .deed _ => return
  | .not body => finish body
  | .both first second | .either first second | .inTurn first second => do
    finish first
    finish second

/-- Searches below all paths; the status. -/
def all : List String → Walk Nat
  | [] => do
    finish (← read).search.expr
    return (← get).status
  | path :: paths => do
    walk maxNesting [] path path 0
    all paths

end Walk

/-- Options in front of the paths: how links are followed. -/
def leading (search : Search) : List String → Search × List String
  | "-H" :: rest => leading { search with followsFirst := true, follows := false } rest
  | "-L" :: rest => leading { search with followsFirst := true, follows := true } rest
  | "-P" :: rest => leading { search with followsFirst := false, follows := false } rest
  | "--" :: rest => (search, rest)
  | arg :: rest => if arg.startsWith "-O" then leading search rest else (search, arg :: rest)
  | [] => (search, [])

/-- Finds files. -/
def tool (execute : Execute) : Tool := fun call => do
  let (search, args) := leading {} call.args
  let paths := args.takeWhile fun arg => !Reader.isPart true arg
  let rest := args.drop paths.length
  let now ← Act.view (·.clock)
  let (search, _) ← Reader.whole.run { call, rest, search, now }
  let setup : Setup := { call, execute, search, now }
  let paths := if paths.isEmpty then ["."] else paths
  let (status, _) ← StateT.run (ReaderT.run (Walk.all paths) setup)
    { waiting := Array.replicate search.many [] }
  return status

end StagedBuild.Script.Tools.Finding
