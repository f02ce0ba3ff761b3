import StagedBuild.Script.Tools.Input
import StagedBuild.Script.Tools.Order
import StagedBuild.Script.Tools.Quantity
import StagedBuild.Script.Tools.Showing

/-!
# Lines beside each other

Dropping or counting lines that repeat the one before them, and comparing two files whose lines are
in order.
-/

namespace StagedBuild.Script.Tools

open Process

/-! ### Repeated lines -/

/-- Where empty lines stand among groups of lines. -/
inductive Gaps where
  | none
  | before
  | after
  | between
  | both
  deriving DecidableEq, Repr

/-- Which lines of groups of equal lines are shown, and how. -/
structure Repeats where
  single : Bool := true
  first : Bool := true
  /-- All lines of a group, and not only one. -/
  later : Bool := false
  counts : Bool := false
  gaps : Gaps := .none
  stop : String := "\n"

/-- The last line, how many lines before it are equal to it, and whether groups came before. -/
structure Group where
  line : String
  others : Nat := 0
  isLater : Bool := false

/-- A line of a group, if it is shown: with or without an equal one behind it. -/
def Repeats.text (repeats : Repeats) (group : Group) (matches? : Bool) : String :=
  let isShown := if group.others = 0 then repeats.single
    else if matches? then repeats.later else repeats.first
  if !isShown then ""
  else (if repeats.counts then padLeft 7 (toString (group.others + 1)) ++ " " else "") ++
    group.line ++ repeats.stop

/-- Goes on to the next line, which is equal to the last or not. -/
def Repeats.next (repeats : Repeats) (group : Group) (line : String) (isEqual : Bool) :
    Group × String :=
  let others := if isEqual then group.others + 1 else group.others
  let isLater := group.isLater || (!isEqual && group.others != 0)
  let hasGap := isEqual && others == 1 &&
    (repeats.gaps == .before || (repeats.gaps == .between && group.isLater))
  let gap := if hasGap then repeats.stop else ""
  if isEqual && !repeats.later then ({ group with others, isLater }, gap)
  else ({ line, others := if isEqual then others else 0, isLater },
    gap ++ repeats.text { group with others } isEqual)

/-- All lines, in groups with empty lines among them. -/
def Repeats.nextGrouped (repeats : Repeats) (last : Option String) (line : String)
    (isEqual : Bool) : String :=
  let hasGap := !isEqual && match repeats.gaps with
    | .before | .both => true
    | .after | .between => last.isSome
    | .none => false
  (if hasGap then repeats.stop else "") ++ line ++ repeats.stop

/-- Drops or counts lines that repeat the one before them. -/
def uniq : Tool :=
  withOptions (digits "" ++ "c,count d,repeated D ,all-repeated? ,group? i,ignore-case u,unique " ++
    "f,skip-fields= s,skip-chars= w,check-chars= z,zero-terminated")
    fun given files call => do
      let number (option what : String) : Act (Option Nat) := do
        let typed := String.join
          ((given.filter fun (key, _) => key.toList.any Char.isDigit).map (·.1))
        let asked := if option = "f" && !typed.isEmpty then some typed else given.value? option
        match asked with
        | none => return none
        | some text =>
          match Quantity.read [] Quantity.mostUnsigned text with
          | .ok value => return some value
          | .error .tooGreat => return some Quantity.mostUnsigned
          | .error _ => call.giveUp (text ++ ": invalid number of " ++ what)
      let chars := files.filter (·.startsWith "+")
      let files := files.filter (!·.startsWith "+")
      let fields := (← number "f" "fields to skip").getD 0
      let skipped := (← number "s" "bytes to skip").getD
        ((chars.head?.map fun text => Numeral.ofDigits 10 text.toList.tail).getD 0)
      let most ← number "w" "bytes to compare"
      let allGaps ← (given.values "all-repeated").mapM fun word =>
        if word.isEmpty then return Gaps.none
        else choose call "--all-repeated" [("none", Gaps.none), ("prepend", .before),
          ("separate", .between)] word
      let groups ← (given.values "group").mapM fun word =>
        if word.isEmpty then return Gaps.between
        else choose call "--group" [("prepend", Gaps.before), ("append", .after),
          ("separate", .between), ("both", .both)] word
      if let extra :: _ := files.drop 2 then
        return ← superfluousName call extra
      let showsAll := given.has "D" || given.has "all-repeated"
      if !groups.isEmpty && (["c", "d", "u"].any given.has || showsAll) then
        return ← call.misused "--group is mutually exclusive with -c/-d/-D/-u"
      if showsAll && given.has "c" then
        return ← call.misused
          "printing all duplicated lines and repeat counts is meaningless"
      let stop := if given.has "z" then '\x00' else '\n'
      let repeats : Repeats := {
        single := !given.has "d" && !showsAll, first := !given.has "u", later := showsAll
        counts := given.has "c", stop := stop.toString
        gaps := groups.getLast?.getD (allGaps.getLastD .none) }
      let key (line : String) : String :=
        let rest := (Key.skipFields none fields line.toList).drop skipped
        let rest := most.elim rest rest.take
        String.ofList (if given.has "i" then rest.map Char.toUpper else rest)
      if let some path := files[1]? then
        if path != "-" then
          match ← Act.openPath .writing path with
          | .ok channel => Act.connect 1 (some channel)
          | .error e => call.giveUp (call.plainPath path ++ ": " ++ e.description)
      let step (state : Option Group × String) (line : String) : Option Group × String :=
        let (group, text) := state
        let line := (withoutStop stop line).1
        let isEqual := group.any fun group => key group.line == key line
        if !groups.isEmpty then
          (some { line }, text ++ repeats.nextGrouped (group.map (·.line)) line isEqual)
        else match group with
          | none => (some { line }, text)
          | some group =>
            let (group, shown) := repeats.next group line isEqual
            (some group, text ++ shown)
      let read (_ : String) (descriptor : Nat) (group : Option Group) :
          Act (Progress (Option Group)) :=
        overLines descriptor stop (fun group lines => do
          let (group, text) := lines.foldl step (group, "")
          call.print text
          return .yield group) Act.maxRounds "" group
      let complaints : Complaints := {
        opening := fun call path e => call.plainPath path ++ ": " ++ e.description
        reading := fun call path _ => "error reading " ++ call.path path }
      let path := files.headD "-"
      match ← (if path = "-" then do return .ok (← read path 0 none)
        else Act.withFile .reading path fun descriptor => read path descriptor none) with
      | .error e => call.refuse (complaints.opening call path e)
      | .ok (_, some e) => call.refuse (complaints.reading call path e)
      | .ok (none, none) => return 0
      | .ok (some group, none) =>
        call.print (if groups.isEmpty then repeats.text group false
          else if [Gaps.after, .both].contains repeats.gaps then stop.toString else "")
        return 0
where
  /-- Complains about an argument for which there is no use. -/
  superfluousName (call : Call) (arg : String) : Act Nat :=
    call.misused ("extra operand " ++ call.quoted arg)

/-! ### Lines of two files -/

/-- One of two files that are compared, whose lines should be in order. -/
structure Side where
  number : Nat
  lines : Lines
  /-- The line that is compared now, and the two before it. -/
  current : Option String := none
  last : Option String := none
  beforeLast : Option String := none
  /-- Its disorder has been noted. -/
  isNoted : Bool := false

/-- How the order of files is checked. -/
inductive Checking where
  | never
  /-- Once there are lines without equals. -/
  | later
  | always
  deriving DecidableEq, Repr

/-- Checks the order of two lines that follow each other. -/
def Side.check (call : Call) (isChecked isFatal : Bool) (side : Side) :
    Option String → Option String → Act Side
  | some a, some b => do
    if !isChecked || side.isNoted || Order.bytes a.toList b.toList != .gt then return side
    let problem := "file " ++ toString side.number ++ " is not in sorted order"
    if isFatal then call.giveUp problem
    call.complain problem
    return { side with isNoted := true }
  | _, _ => return side

/-- Goes on to the next line of a file. -/
def Side.step (call : Call) (path : String) (isChecked isFatal : Bool) (side : Side) :
    Act Side := do
  let (line, lines) ← side.lines.next
  if let some e := lines.problem then
    call.giveUp (call.plainPath path ++ ": " ++ e.description)
  let line := line.map fun line => (withoutStop lines.stop line).1
  let side := { side with
    lines, current := line, last := side.current, beforeLast := side.last }
  match line with
  | some _ => side.check call isChecked isFatal side.last line
  | none => side.check call isChecked isFatal side.beforeLast side.last

/-- How lines of two files are shown beside each other. -/
structure Columns where
  first : Bool
  second : Bool
  both : Bool
  between : String
  stop : String
  checking : Checking
  paths : String × String

/-- A line in its column: of the first file, the second, or both. -/
def Columns.text (columns : Columns) (kind : Ordering) (line : String) : String :=
  let gap (isShown : Bool) : String := if isShown then columns.between else ""
  match kind with
  | .lt => if columns.first then line ++ columns.stop else ""
  | .gt => if columns.second then gap columns.first ++ line ++ columns.stop else ""
  | .eq => if columns.both then gap columns.first ++ gap columns.second ++ line ++ columns.stop
    else ""

/-- Goes on to the next line of one of two files, which may be read from the same descriptor. -/
def stepBoth (call : Call) (path : String) (isChecked isFatal : Bool) (side other : Side) :
    Act (Side × Side) := do
  let side ← side.step call path isChecked isFatal
  if side.lines.descriptor = other.lines.descriptor then
    return (side, { other with lines := side.lines })
  else return (side, other)

/-- Compares two files line by line; the numbers of lines in each column. -/
def compareLines (call : Call) (columns : Columns) : (rounds : Nat) → (unpaired : Bool) →
    List Ordering → Side → Side → Act (List Ordering × Bool)
  | 0, _, _, _, _ => Act.exhaust
  | rounds + 1, unpaired, found, first, second => do
    let kind : Option Ordering := match first.current, second.current with
      | none, none => none
      | some _, none => some .lt
      | none, some _ => some .gt
      | some a, some b => some (Order.bytes a.toList b.toList)
    let some kind := kind | return (found, first.isNoted || second.isNoted)
    let unpaired := unpaired || kind != .eq
    let isFatal := columns.checking == .always
    let isChecked := isFatal || (columns.checking == .later && unpaired)
    call.print (columns.text kind ((if kind == .lt then first else second).current.getD ""))
    let (first, second) ← if kind == .gt then pure (first, second)
      else stepBoth call columns.paths.1 isChecked isFatal first second
    let (second, first) ← if kind == .lt then pure (second, first)
      else stepBoth call columns.paths.2 isChecked isFatal second first
    compareLines call columns rounds unpaired (kind :: found) first second

/-- Opens a file that is compared with another. -/
def openSide (call : Call) (number : Nat) (stop : Char) (path : String) : Act Side := do
  if path = "-" then return { number, lines := { descriptor := 0, stop } }
  match ← Act.openPath .reading path with
  | .ok channel => return { number, lines := { descriptor := ← Act.hide channel, stop } }
  | .error e => call.giveUp (call.plainPath path ++ ": " ++ e.description)

/-- Shows which lines two files have each for themselves and which they share. -/
def comm : Tool := withOptions ("1 2 3 ,check-order ,nocheck-order ,output-delimiter= ,total " ++
    "z,zero-terminated") fun given files call => do
  let stop := if given.has "z" then '\x00' else '\n'
  let delimiters := given.values "output-delimiter"
  if delimiters.any (· != delimiters.headD "") then
    call.giveUp "multiple output delimiters specified"
  let between := match delimiters with
    | [] => "\t"
    | "" :: _ => "\x00"
    | text :: _ => text
  match files with
  | [] => call.misused "missing operand"
  | [only] => call.misused ("missing operand after " ++ call.quoted only)
  | _ :: _ :: extra :: _ => call.misused ("extra operand " ++ call.quoted extra)
  | [a, b] =>
    let checking : Checking := match given.last? ["check-order", "nocheck-order"] with
      | some "check-order" => .always
      | some _ => .never
      | none => .later
    let columns : Columns := ⟨!given.has "1", !given.has "2", !given.has "3", between,
      stop.toString, checking, (a, b)⟩
    let first ← openSide call 1 stop a
    let second ← openSide call 2 stop b
    let isFatal := checking == .always
    let (first, second) ← stepBoth call a isFatal isFatal first second
    let (second, first) ← stepBoth call b isFatal isFatal second first
    let (found, isNoted) ← compareLines call columns Act.maxRounds false [] first second
    if given.has "total" then
      let count (kind : Ordering) : String := toString (found.filter (· == kind)).length
      call.print (count .lt ++ between ++ count .gt ++ between ++ count .eq ++ between ++ "total" ++
        stop.toString)
    if a = "-" && b = "-" then call.giveUp "-: Bad file descriptor"
    if isNoted then call.refuse "input is not in sorted order" else return 0

end StagedBuild.Script.Tools
