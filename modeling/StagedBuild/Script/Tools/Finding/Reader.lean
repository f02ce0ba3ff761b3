import StagedBuild.Calendar.Reader
import StagedBuild.Regex.Reader
import StagedBuild.Script.Tools.Finding.Format

/-!
# Reading expressions about files

An expression stands in arguments: names of questions and deeds with what they are told, signs
between them, and parentheses.
-/

namespace StagedBuild.Script.Tools.Finding

open Process

/-- What has been read of the arguments. -/
structure Draft where
  call : Call
  rest : List String
  search : Search := {}
  /-- What was read last. -/
  last : String := ""
  dialect : Option Regex.Dialect := none
  now : Int := 0

/-- Reading arguments. -/
abbrev Reader (α : Type) := StateT Draft Act α

namespace Reader

/-- Complains about the arguments. -/
def fail {α : Type} (problem : String) : Reader α := do
  let call := (← get).call
  call.giveUp problem

/-- Complains about an invalid expression. -/
def invalid {α : Type} (problem : String) : Reader α :=
  fail ("invalid expression; " ++ problem)

/-- The next argument. -/
def peek : Reader (Option String) := return (← get).rest.head?

/-- Passes over an argument. -/
def skip : Reader Unit := modify fun draft => { draft with
  last := draft.rest.headD "", rest := draft.rest.tail }

/-- The argument that belongs to a name. -/
def value (name : String) : Reader String := do
  match (← get).rest with
  | [] => fail ("missing argument to \x60" ++ name ++ "'")
  | value :: rest =>
    modify fun draft => { draft with rest }
    return value

/-- Refuses the argument of a name. -/
def refuse {α : Type} (name value : String) : Reader α :=
  fail ("invalid argument \x60" ++ value ++ "' to \x60" ++ name ++ "'")

/-- A number that others are compared with. -/
def bound? (text : String) : Option Bound :=
  let (sign, digits) := match text.toList with
    | '+' :: digits => (some '+', digits)
    | '-' :: digits => (some '-', digits)
    | digits => (none, digits)
  if digits.isEmpty || !digits.all Char.isDigit then none
  else some ⟨sign, Numeral.ofDigits 10 digits⟩

/-- The number behind a name that others are compared with. -/
def bound (name : String) : Reader Bound := do
  let text ← value name
  match bound? text with
  | some bound => return bound
  | none => refuse name text

/-- The pattern behind a name. -/
def shape (name : String) (ignoresCase : Bool) : Reader Shape := do
  return ⟨.ofText (← value name), ignoresCase⟩

/-- The units of sizes. -/
def units : List (Char × Nat) :=
  [('b', 512), ('c', 1), ('w', 2), ('k', 1024), ('M', 1048576), ('G', 1073741824)]

/-- A question about the size. -/
def size (name : String) : Reader Test := do
  let text ← value name
  if text.isEmpty then fail "invalid null argument to -size"
  let last := text.toList.getLastD ' '
  let (number, unit) := match units.lookup last with
    | some unit => ((text.dropEnd 1).toString, unit)
    | none => (text, 512)
  if !last.isDigit && (units.lookup last).isNone then
    fail ("invalid -size type \x60" ++ last.toString ++ "'")
  match bound? number with
  | some bound => return .size bound unit
  | none => fail ("Invalid argument \x60" ++ text ++ "' to -size")

/-- A question about rights. -/
def rights (name : String) : Reader Test := do
  let text ← value name
  let (wanted, mode) := match text.toList with
    | '-' :: mode => (Wanted.all, String.ofList mode)
    | '/' :: mode => (.any, String.ofList mode)
    | _ => (.exactly, text)
  match Mode.ofText? mode with
  | some mode => return .rights wanted (mode.apply false 0 0)
  | none => fail ("invalid mode " ++ (← get).call.quoted text)

/-- A question about kinds of files. -/
def kind (name : String) (across : Bool) : Reader Test := do
  let text ← value name
  if text.isEmpty then fail ("Arguments to " ++ name ++ " should contain at least one letter")
  let parts := Text.splitOn ',' text.toList
  let letters ← parts.zipIdx.mapM fun (part, i) => do
    match part with
    | [letter] =>
      if "bcdpflsD".contains letter then return letter
      fail ("Unknown argument to " ++ name ++ ": " ++ letter.toString)
    | [] =>
      if i + 1 = parts.length then
        fail ("Last file type in list argument to " ++ name ++
          " is missing, i.e., list is ending on: ','")
      fail ("Unknown argument to " ++ name ++ ": ,")
    | letter :: _ =>
      if !"bcdpflsD".contains letter then
        fail ("Unknown argument to " ++ name ++ ": " ++ letter.toString)
      fail ("Must separate multiple arguments to " ++ name ++ " using: ','")
  return .kind letters across

/-- The node of a file behind a name. -/
def file (path : String) : Reader NodeId := do
  match ← Act.find path (← get).search.follows with
  | .ok id => return id
  | .error e => fail ((← get).call.quoted path ++ ": " ++ e.description)

/-- The time of the last change of a file behind a name. -/
def timeOf (path : String) : Reader Int := do
  let id ← file path
  Act.viewTree fun tree _ => (tree.node id).changed

/-- A question about whether a file is newer than another, or than a date. -/
def newer (name : String) : Reader Test := do
  match name.toList.drop 6 with
  | [which, of] =>
    if !"aBcm".contains which || !"aBcmt".contains of then
      fail ("invalid predicate \x60" ++ name ++ "'")
    let text ← value name
    if of != 't' then return .newer (← timeOf text)
    let draft ← get
    match Calendar.read? draft.now text with
    | some time => return .newer time
    | none =>
      fail ("I cannot figure out how to interpret " ++ draft.call.quoted text ++
        " as a date or time")
  | _ => fail ("unknown predicate \x60" ++ name ++ "'")

/-- The names of dialects of expressions. -/
def dialects : List (String × Option Regex.Dialect) :=
  [("findutils-default", none), ("ed", some .basic), ("emacs", none), ("gnu-awk", some .full),
   ("grep", some .basic), ("posix-awk", some .full), ("awk", some .full),
   ("posix-basic", some .basic), ("posix-egrep", some .full), ("egrep", some .full),
   ("posix-extended", some .full), ("posix-minimal-basic", some .basic), ("sed", some .basic)]

/-- An expression of the usual dialect in the full one: the meaning of some signs is the other way
round. -/
def inFull : List Char → List Char
  | '\\' :: c :: rest =>
    if ['(', ')', '|'].contains c then c :: inFull rest else '\\' :: c :: inFull rest
  | c :: rest =>
    if ['(', ')', '|', '\x7b', '\x7d'].contains c then '\\' :: c :: inFull rest
    else c :: inFull rest
  | [] => []

/-- A question about a whole path. -/
def expression (name : String) (ignoresCase : Bool) : Reader Test := do
  let text ← value name
  let draft ← get
  let (dialect, source) := match draft.dialect with
    | some dialect => (dialect, text)
    | none => (.full, String.ofList (inFull text.toList))
  match Regex.read dialect draft.call.charset source with
  | .ok parsed => return .expression ⟨parsed.expr, draft.call.charset, ignoresCase, false⟩
  | .error problem =>
    fail ("failed to compile regular expression '" ++ text ++ "': " ++ problem.message)

/-- A file that is written to, by its descriptor. -/
def outlet (name : String) : Reader Outlet := do
  let path ← value name
  match path with
  | "/dev/stdout" => return 1
  | "/dev/stderr" => return 2
  | _ =>
    match ← Act.openPath .writing path with
    | .ok channel => Act.hide channel
    | .error e => fail ((← get).call.quoted path ++ ": " ++ e.description)

/-- A format. -/
def format (name : String) : Reader (List Piece) := do
  let text ← value name
  match readFormat (text.length + 1) text.toList with
  | .error problem => fail problem
  | .ok (pieces, warnings) =>
    for warning in warnings do
      (← get).call.complain warning
    return pieces

/-- A program with its arguments, which ends with a semicolon, or with braces and a plus sign. -/
def program (name : String) (inPlace asks : Bool) : Reader Deed := do
  let rest := (← get).rest
  let isEnd (i : Nat) : Bool :=
    rest[i]? == some ";" ||
      (!asks && rest[i]? == some "+" && 0 < i && rest[i - 1]? == some "\x7b\x7d")
  match (List.range rest.length).find? isEnd with
  | none => fail ("missing argument to \x60" ++ name ++ "'")
  | some 0 => refuse name (rest.headD "")
  | some stop =>
    modify fun draft => { draft with rest := rest.drop (stop + 1) }
    let args := rest.take stop
    if rest[stop]? == some ";" then return .run args inPlace asks
    let args := args.dropLast
    if args.any fun arg => (arg.splitOn "\x7b\x7d").length != 1 then
      fail ("Only one instance of \x7b\x7d is supported with " ++ name ++ " ... +")
    let number := (← get).search.many
    modify fun draft => { draft with search.many := number + 1 }
    return .runMany number args inPlace

/-- A depth behind a name. -/
def depth (name : String) : Reader Nat := do
  let text ← value name
  if text.isEmpty || !text.toList.all Char.isDigit then
    fail ("Expected a positive decimal integer argument to " ++ name ++ ", but got " ++
      (← get).call.quoted text)
  return Numeral.ofDigits 10 text.toList

/-- A user or group behind a name. -/
def owner (name kind : String) : Reader Test := do
  let text ← value name
  if text = "root" then return .owner ⟨none, 0⟩
  else if !text.isEmpty && text.toList.all Char.isDigit then
    return .owner ⟨none, Numeral.ofDigits 10 text.toList⟩
  else fail ((← get).call.quoted text ++ " is not the name of " ++ kind)

/-- Takes a setting of the whole search into account. -/
def setting (change : Search → Search) : Reader Expr := do
  modify fun draft => { draft with search := change draft.search }
  return .test (.always true)

/-- A question about a file, by its name. -/
def test? (name : String) : Reader (Option Test) := do
  let days := 86400
  match name with
  | "-true" => return some (.always true)
  | "-false" | "-nouser" | "-nogroup" => return some (.always false)
  | "-name" => return some (.name (← shape name false))
  | "-iname" => return some (.name (← shape name true))
  | "-path" | "-wholename" | "-ipath" | "-iwholename" =>
    let text ← value name
    if text.endsWith "/" then
      (← get).call.complain ("warning: " ++ name ++ " " ++ text ++
        " will not match anything because it ends with /.")
    return some (.path ⟨.ofText text, name.startsWith "-i"⟩)
  | "-regex" => return some (← expression name false)
  | "-iregex" => return some (← expression name true)
  | "-lname" => return some (.leadsTo (← shape name false))
  | "-ilname" => return some (.leadsTo (← shape name true))
  | "-type" => return some (← kind name false)
  | "-xtype" => return some (← kind name true)
  | "-size" => return some (← size name)
  | "-empty" => return some .empty
  | "-newer" | "-anewer" | "-cnewer" => return some (.newer (← timeOf (← value name)))
  | "-mtime" | "-atime" | "-ctime" => return some (.age (← bound name) days)
  | "-mmin" | "-amin" | "-cmin" => return some (.age (← bound name) 60)
  | "-perm" => return some (← rights name)
  | "-links" => return some (.names (← bound name))
  | "-inum" => return some (.number (← bound name))
  | "-uid" | "-gid" => return some (.owner (← bound name))
  | "-user" => return some (← owner name "a known user")
  | "-group" => return some (← owner name "an existing group")
  | "-samefile" => return some (.same (← file (← value name)))
  | "-readable" | "-writable" => return some (.allowed false)
  | "-executable" => return some (.allowed true)
  | _ => if name.startsWith "-newer" then return some (← newer name) else return none

/-- Something that is done with a file, by its name. -/
def deed? (name : String) : Reader (Option Deed) := do
  match name with
  | "-print" => return some (.print 1 "\n")
  | "-print0" => return some (.print 1 "\x00")
  | "-fprint" => return some (.print (← outlet name) "\n")
  | "-fprint0" => return some (.print (← outlet name) "\x00")
  | "-printf" => return some (.show 1 (← format name))
  | "-fprintf" =>
    let outlet ← outlet name
    return some (.show outlet (← format name))
  | "-ls" => return some .list
  | "-prune" => return some .prune
  | "-quit" => return some .quit
  | "-delete" =>
    let _ ← setting fun search => { search with deepFirst := true }
    return some .delete
  | "-exec" => return some (← program name false false)
  | "-execdir" => return some (← program name true false)
  | "-ok" => return some (← program name false true)
  | "-okdir" => return some (← program name true true)
  | _ => return none

/-- A question, a deed, or a setting, by its name. -/
def primary (name : String) : Reader Expr := do
  if let some test ← test? name then return .test test
  if let some deed ← deed? name then return .deed deed
  match name with
  | "-maxdepth" =>
    let depth ← depth name
    setting fun search => { search with mostDepth := some depth }
  | "-mindepth" =>
    let depth ← depth name
    setting fun search => { search with leastDepth := depth }
  | "-depth" | "-d" => setting fun search => { search with deepFirst := true }
  | "-follow" => setting fun search => { search with follows := true, followsFirst := true }
  | "-mount" | "-xdev" | "-daystart" | "-noleaf" | "-warn" | "-nowarn" | "-ignore_readdir_race" |
    "-noignore_readdir_race" => setting id
  | "-regextype" =>
    let text ← value name
    match dialects.lookup text with
    | some dialect =>
      modify fun draft => { draft with dialect }
      setting id
    | none =>
      let call := (← get).call
      let known := ", ".intercalate (dialects.map fun (name, _) => call.quoted name)
      fail ("Unknown regular expression type " ++ call.quoted text ++ "; valid types are " ++
        known ++ ".")
  | _ => fail ("unknown predicate \x60" ++ name ++ "'")

/-- The argument belongs to an expression, and is no path. -/
def isPart (isFirst : Bool) (arg : String) : Bool :=
  match arg.toList with
  | '-' :: _ :: _ => true
  | ['('] | ['!'] => true
  | [')'] | [','] => !isFirst
  | _ => false

/-- Signs between parts of an expression, with what they bind. -/
def isOr (arg : String) : Bool := arg == "-o" || arg == "-or"
@[inherit_doc isOr] def isAnd (arg : String) : Bool := arg == "-a" || arg == "-and"

/-- An argument that ends a part of an expression. -/
def endsPart (arg : String) : Bool := isOr arg || isAnd arg || arg == "," || arg == ")"

/-- Demands a part of an expression behind a sign. -/
def demand (sign : String) : Reader Unit := do
  match ← peek with
  | none => fail ("expected an expression after '" ++ sign ++ "'")
  | some ")" => fail ("expected an expression between '" ++ sign ++ "' and ')'")
  | some arg =>
    if endsPart arg then
      invalid ("you have used a binary operator '" ++ arg ++ "' with nothing before it.")

mutual

/-- Parts in turn: of which the last one counts. -/
def inTurn : (fuel : Nat) → Reader Expr
  | 0 => invalid "it is too long"
  | fuel + 1 => do
    let first ← either fuel
    inTurnFrom fuel first

/-- Further parts in turn. -/
def inTurnFrom : (fuel : Nat) → Expr → Reader Expr
  | 0, first => return first
  | fuel + 1, first => do
    if (← peek) != some "," then return first
    skip
    demand ","
    inTurnFrom fuel (.inTurn first (← either fuel))

/-- Parts of which one has to hold. -/
def either : (fuel : Nat) → Reader Expr
  | 0 => invalid "it is too long"
  | fuel + 1 => do
    let first ← both fuel
    eitherFrom fuel first

/-- Further parts of which one has to hold. -/
def eitherFrom : (fuel : Nat) → Expr → Reader Expr
  | 0, first => return first
  | fuel + 1, first => do
    match ← peek with
    | some sign =>
      if !isOr sign then return first
      skip
      demand sign
      eitherFrom fuel (.either first (← both fuel))
    | none => return first

/-- Parts that have to hold together. -/
def both : (fuel : Nat) → Reader Expr
  | 0 => invalid "it is too long"
  | fuel + 1 => do
    let first ← single fuel
    bothFrom fuel first

/-- Further parts that have to hold together. -/
def bothFrom : (fuel : Nat) → Expr → Reader Expr
  | 0, first => return first
  | fuel + 1, first => do
    match ← peek with
    | none => return first
    | some sign =>
      if isAnd sign then
        skip
        demand sign
        bothFrom fuel (.both first (← single fuel))
      else if endsPart sign then return first
      else bothFrom fuel (.both first (← single fuel))

/-- One part. -/
def single : (fuel : Nat) → Reader Expr
  | 0 => invalid "it is too long"
  | fuel + 1 => do
    let last := (← get).last
    let some arg ← peek | invalid "it ends too early"
    if !isPart false arg then
      let call := (← get).call
      call.complain ("paths must precede expression: \x60" ++ arg ++ "'")
      if (← Act.find arg).toBool then
        call.giveUp ("possible unquoted pattern after predicate \x60" ++ last ++ "'?")
      Act.exit call.trouble
    skip
    match arg with
    | "!" | "-not" =>
      demand arg
      return .not (← single fuel)
    | "(" =>
      if (← peek) == some ")" then invalid "empty parentheses are not allowed."
      let unclosed := "I was expecting to find a ')' somewhere but did not see one."
      if (← peek).isNone then invalid unclosed
      demand arg
      let body ← inTurn fuel
      if (← peek) != some ")" then invalid unclosed
      skip
      return body
    | _ =>
      if endsPart arg then
        invalid ("you have used a binary operator '" ++ arg ++ "' with nothing before it.")
      primary arg

end

/-- The whole expression. -/
def whole : Reader Search := do
  let draft ← get
  let fuel := 4 * draft.rest.length + 8
  let expr ← if draft.rest.isEmpty then pure (.test (.always true)) else inTurn fuel
  if (← peek) == some ")" then fail "you have too many ')'"
  let expr := if expr.acts then expr else .both expr (.deed (.print 1 "\n"))
  return { (← get).search with expr }

end Reader

end StagedBuild.Script.Tools.Finding
