import StagedBuild.Calendar.Reader
import StagedBuild.Script.Tools.Input
import StagedBuild.Script.Tools.Mode
import StagedBuild.Script.Tools.Quantity

/-!
# Tools that make files

Making directories, files, links and pipes, and setting the times and sizes of files.
-/

namespace StagedBuild.Script.Tools

open Process

/-- The mask of rights that new files do not get. -/
def maskOf : Act Nat := Act.view (·.actor.mask)

/-- The mode that an option asks for, of what would have all rights by itself. -/
def modeOption (call : Call) (given : Given) (isDirectory : Bool) (plain : Nat) :
    Act (Option Nat) := do
  match given.value? "m" with
  | none => return none
  | some text =>
    match Mode.ofText? text with
    | some mode => return some (mode.apply isDirectory (← maskOf) plain)
    | none => call.giveUp ("invalid mode " ++ call.quoted text)

/-! ### Directories -/

/-- The beginnings of a path that end before a slash with something behind it. -/
def beginnings (path : String) : List String :=
  let chars := path.toList
  let isEnd (i : Nat) : Bool :=
    chars[i]? == some '/' && i != 0 && chars[i - 1]? != some '/' &&
      (chars.drop i).any (· != '/')
  ((List.range chars.length).filter isEnd).map fun i => String.ofList (chars.take i)

/-- Makes directories along a path where there are none: the beginning that cannot be made, or is no
directory. -/
def makeAlong (announce : (path : String) → Act Unit) (rights : Nat) :
    (paths : List String) → Act (Option (String × OsError))
  | [] => return none
  | path :: paths => do
    let made ← if (FilePath.segments path).getLast? = some ".." then
        (return .error .alreadyExists : Act (Except OsError Unit))
      else Act.changeTree fun tree dir => tree.makeDirectory dir path rights
    if made.toBool then announce path
    match ← Act.find path, made with
    | .ok id, _ =>
      if ← Act.viewTree fun tree _ => tree.isDirectory id then makeAlong announce rights paths
      else return some (path, .notDirectory)
    | .error .notFound, .error e => return some (path, e)
    | .error e, _ => return some (path, e)

/-- Makes directories, with those above them if that is asked for. -/
def mkdir : Tool := withOptions "p,parents m,mode= v,verbose Z ,context?" fun given paths call => do
  if paths.isEmpty then return ← call.misused "missing operand"
  let mask ← maskOf
  let rights := Mode.without 511 mask
  let asked ← modeOption call given true 511
  let announce (path : String) : Act Unit := do
    if given.has "v" then
      call.print (call.name ++ ": created directory " ++ call.path path ++ "\n")
  let cannot (path : String) (e : OsError) : Act Nat :=
    call.refuse ("cannot create directory " ++ call.quoted path ++ ": " ++ e.description)
  forEach (fun path => do
    if given.has "p" then
      if let some (path, e) ← makeAlong announce (rights ||| 192) (beginnings path) then
        return ← cannot path e
    match ← Act.changeTree fun tree dir => tree.makeDirectory dir path rights with
    | .ok () =>
      announce path
      if let some rights := asked then
        if let .ok id ← Act.find path then
          Act.change fun world => { world with
            tree := world.tree.update id fun node => { node with rights } }
      return 0
    | .error e =>
      let isThere ← Act.viewTree fun tree dir => tree.leadsToDirectory dir path
      if given.has "p" && isThere then return 0 else cannot path e) paths

/-! ### Times -/

/-- The moment in a text of digits: month, day, hour and minute, with a year before them and seconds
behind a dot if they are given. -/
def momentOfDigits? (now : Int) (text : String) : Option Int := do
  let chars := text.toList
  let digits := chars.takeWhile (· != '.')
  let seconds ← match chars.dropWhile (· != '.') with
    | [] => some 0
    | _ :: rest =>
      if rest.length = 2 && rest.all Char.isDigit then some (Calendar.valueOf rest) else none
  let field (start : Nat) : Nat := Calendar.valueOf ((digits.drop start).take 2)
  if !digits.all Char.isDigit then none
  let year ← match digits.length with
    | 8 => some (Moment.ofNanos now).year
    | 10 => some (Calendar.yearOf (digits.take 2))
    | 12 => some (Calendar.valueOf (digits.take 4) : Int)
    | _ => none
  let start := digits.length - 8
  let moment : Moment :=
    ⟨year, field start, field (start + 2), field (start + 4), field (start + 6), min seconds 59, 0⟩
  if moment.isValid && seconds ≤ 60 then
    some (moment.toNanos + (seconds - min seconds 59 : Nat) * Calendar.billion)
  else none

/-- The time that options ask for, of the present or of another file. -/
def timeOption (call : Call) (given : Given) : Act Int := do
  let now ← Act.view (·.clock)
  let wrong (text : String) : Act Int := call.giveUp ("invalid date format " ++ call.quoted text)
  let base ← match given.value? "r" with
    | none => pure (now : Int)
    | some path =>
      match ← Act.find path (!given.has "h") with
      | .ok id => Act.viewTree fun tree _ => (tree.node id).changed
      | .error e =>
        call.giveUp ("failed to get attributes of " ++ call.path path ++ ": " ++ e.description)
  match given.value? "t", given.value? "d" with
  | some text, _ =>
    match momentOfDigits? now text with
    | some time => return time
    | none => wrong text
  | none, some text =>
    match Calendar.read? base text with
    | some time => return time
    | none => wrong text
  | none, none => return base

/-- Sets the times of files, and makes those that do not exist. -/
def touch : Tool := withOptions ("a c,no-create d,date= f h,no-dereference m r,reference= t= " ++
    ",time=") fun given files call => do
  let kinds := [("atime", false), ("access", false), ("use", false), ("mtime", true),
    ("modify", true)]
  let words ← (given.values "time").mapM (choose call "--time" kinds)
  if given.has "t" && (given.has "d" || given.has "r") then
    return ← call.misused "cannot specify times from more than one source"
  let time ← timeOption call given
  if files.isEmpty then return ← call.misused "missing file operand"
  let asksChange := given.has "m" || words.contains true
  let asksUse := given.has "a" || words.contains false
  let setTime (id : NodeId) : Act Unit := Act.change fun world => { world with
    tree := world.tree.update id fun node => { node with
      changed := if asksUse && !asksChange then node.changed else time } }
  let makes := !given.has "c" && !given.has "h"
  forEach (fun path => do
    if path = "-" then
      if let some (node, _) ← fileOf? 1 then setTime node
      return 0
    let problem ← if makes then do
        match ← Act.openPath { writes := true, makes := true } path with
        | .ok _ => pure none
        | .error e => pure (some e)
      else pure none
    match ← Act.find path (!given.has "h"), problem with
    | .ok id, _ =>
      setTime id
      return 0
    | .error e, some problem =>
      if problem = .isDirectory then
        call.refuse ("setting times of " ++ call.path path ++ ": " ++ e.description)
      else call.refuse ("cannot touch " ++ call.path path ++ ": " ++ problem.description)
    | .error e, none =>
      if given.has "c" && e = .notFound then return 0
      else call.refuse ("setting times of " ++ call.path path ++ ": " ++ e.description)) files

/-! ### Sizes -/

/-- What becomes of the size of a file. -/
inductive Resize where
  | set
  | grow
  | shrink
  | atMost
  | atLeast
  | roundDown
  | roundUp
  deriving DecidableEq, Repr

/-- The size of a file after it was changed. -/
def Resize.apply (resize : Resize) (count size : Nat) : Nat :=
  match resize with
  | .set => count
  | .grow => size + count
  | .shrink => size - count
  | .atMost => min size count
  | .atLeast => max size count
  | .roundDown => size / count * count
  | .roundUp => (size + count - 1) / count * count

/-- Sets the sizes of files. -/
def truncate : Tool := withOptions "c,no-create o,io-blocks r,reference= s,size="
    fun given files call => do
  let signs := [('+', Resize.grow), ('-', .shrink), ('<', .atMost), ('>', .atLeast),
    ('/', .roundDown), ('%', .roundUp)]
  let some text := given.value? "s" <|> given.value? "r"
    | call.dismiss ("you must specify either " ++ call.quoted "--size" ++ " or " ++
        call.quoted "--reference")
  let (resize, number) := match text.toList with
    | c :: rest => match signs.lookup c with
      | some resize => (resize, String.ofList rest)
      | none => (.set, text)
    | [] => (.set, text)
  let count ← if given.has "s" then
      Quantity.demand call "Invalid number" number
    else match ← Act.find text with
      | .ok id => sizeOf id
      | .error e => call.giveUp ("cannot stat " ++ call.path text ++ ": " ++ e.description)
  if count = 0 && (resize = .roundDown || resize = .roundUp) then
    return ← call.refuse "division by zero"
  if files.isEmpty then return ← call.misused "missing file operand"
  forEach (fun path => do
    match ← Act.openPath { writes := true, makes := !given.has "c" } path with
    | .error e =>
      if given.has "c" && e = .notFound then return 0
      call.refuse ("cannot open " ++ call.path path ++ " for writing: " ++ e.description)
    | .ok _ =>
      if let .ok id ← Act.find path then
        Act.change fun world => match world.tree.content id with
          | .file bytes =>
            let size := resize.apply count bytes.size
            let bytes := bytes.extract 0 size ++
              ⟨Array.replicate (size - bytes.size) 0⟩
            { world with tree := world.tree.setContent id (.file bytes) }
          | _ => world
      return 0) files

/-! ### Pipes and temporary files -/

/-- Makes pipes with names. -/
def mkfifo : Tool := withOptions "m,mode= Z ,context?" fun given paths call => do
  if paths.isEmpty then return ← call.misused "missing operand"
  let mask ← maskOf
  let rights := (← modeOption call given false 438).getD (Mode.without 438 mask)
  forEach (fun path => do
    let made : Except OsError Unit ← Act.sys fun world =>
      let found := do
        let (dir, name) ← world.tree.vacancy (← world.tree.resolve world.actor.dir path false)
        return (dir, name)
      match found with
      | .ok (dir, name) =>
        let (pipe, world) := world.addPipe
        (.ok (), { world with tree := (world.tree.grow dir name (.queue pipe) rights).2 })
      | .error e => (.error e, world)
    match made with
    | .ok () => return 0
    | .error e =>
      call.refuse ("cannot create fifo " ++ call.path path ++ ": " ++ e.description)) paths

/-- A character for a name that nobody has chosen. -/
def randomChar (seed i : Nat) : Char :=
  let letters := "ABCDEFGHIJKLMNOPQRSTUVWXYZabcdefghijklmnopqrstuvwxyz0123456789".toList
  letters.getD ((seed / 7919 + i * 48271 + seed / 2000 * (i + 3) * 16807) % 62) 'x'

/-- Makes a file or a directory whose name nobody else has. -/
def mktemp : Tool := withOptions "d,directory u,dry-run q,quiet p= ,tmpdir? t ,suffix="
    fun given args call => do
  if 1 < args.length then return ← call.misused "too many templates"
  let call := if given.has "q" then { call with usage := "" } else call
  let template := args.headD "tmp.XXXXXXXXXX"
  let ending := (given.value? "suffix").getD ""
  let chars := (template ++ ending).toList
  let stem := if given.has "suffix" then template.toList
    else (chars.reverse.dropWhile (· != 'X')).reverse
  let after := chars.drop stem.length
  let count := (stem.reverse.takeWhile (· == 'X')).length
  if given.has "suffix" && template.toList.getLast? != some 'X' then
    return ← call.refuse ("with --suffix, template " ++ call.quoted template ++ " must end in X")
  if count < 3 then
    return ← call.refuse ("too few X's in template " ++ call.quoted template)
  if after.contains '/' then
    return ← call.refuse ("invalid suffix " ++ call.quoted (String.ofList after) ++
      ", contains directory separator")
  let isInTemporary := args.isEmpty || given.has "p" || given.has "tmpdir" || given.has "t"
  let fromVariable := match call.environment.lookup "TMPDIR" with
    | some dir => if dir.isEmpty then "/tmp" else dir
    | none => "/tmp"
  let option := (given.value? "p" <|> given.value? "tmpdir").getD ""
  let dir := if given.has "t" then
      if (call.environment.lookup "TMPDIR").any (!·.isEmpty) || option.isEmpty then fromVariable
      else option
    else if option.isEmpty then fromVariable else option
  if isInTemporary && template.startsWith "/" then
    return ← call.refuse ("invalid template, " ++ call.quoted template ++
      "; with --tmpdir, it may not be absolute")
  let seed ← Act.view (·.clock)
  let front := stem.take (stem.length - count)
  let chosen := (List.range count).map (randomChar seed)
  let name := String.ofList (front ++ chosen ++ after)
  let path := if isInTemporary then FilePath.join dir name else name
  let shown := if isInTemporary then FilePath.join dir template else template
  let made ← if given.has "u" then pure (.ok ())
    else if given.has "d" then Act.changeTree fun tree base => tree.makeDirectory base path 448
    else Act.changeTree fun tree base => do
      let (dir, name) ← tree.vacancy (← tree.resolve base path false)
      return (tree.grow dir name (.file .empty) 384).2
  match made with
  | .ok () => call.result (path ++ "\n")
  | .error e =>
    if given.has "q" then return 1
    call.refuse ("failed to create " ++ (if given.has "d" then "directory" else "file") ++
      " via template " ++ call.quoted shown ++ ": " ++ e.description)

end StagedBuild.Script.Tools
