import StagedBuild.Script.Tools.Input
import StagedBuild.Script.Tools.Order
import StagedBuild.Script.Tools.Quantity

/-!
# Sorting

Putting the lines of files in order, merging files that are in order, and finding the first line
that is not.
-/

namespace StagedBuild.Script.Tools

open Process

/-- The order of lines that options ask for. -/
def lineOrder (call : Call) (given : Given) : Act LineOrder := do
  let mut order : LineOrder := { byKeysOnly := given.has "s" || given.has "u" }
  let mut style : Style := {}
  for (option, value) in given do
    match option with
    | "k" | "sort" =>
      if option = "sort" then
        let letter ← choose call "--sort" [("general-numeric", 'g'), ("human-numeric", 'h'),
          ("month", 'M'), ("numeric", 'n'), ("random", 'R'), ("version", 'V')] value
        style := (style.add? true true letter).getD style
      else match Key.ofText value with
        | .ok key => order := { order with keys := order.keys ++ [key] }
        | .error (.noNumber problem text) =>
          call.giveUp (problem ++ ": invalid count at start of " ++ call.quoted text)
        | .error (.badField problem) =>
          call.giveUp (problem ++ ": invalid field specification " ++ call.quoted value)
    | "t" =>
      let mark ← match value.toList with
        | [] => call.giveUp "empty tab"
        | [c] => pure c
        | ['\\', '0'] => pure '\x00'
        | _ => call.giveUp ("multi-character tab " ++ call.quoted value)
      if order.separator.any (· != mark) then call.giveUp "incompatible tabs"
      order := { order with separator := some mark }
    | _ =>
      if let [letter] := option.toList then
        style := (style.add? true true letter).getD style
  let inherit (key : Key) : Key :=
    if key.style.isPlain && !key.style.reverse then { key with style } else key
  let keys := if order.keys.isEmpty && !style.isPlain then [{ style }] else order.keys.map inherit
  for key in keys do
    if let some letters := key.style.conflict? then
      call.giveUp ("options '-" ++ letters ++ "' are incompatible")
  return { order with keys, reverse := style.reverse }

/-- The lines of a file without their ends; complains if it cannot be read. -/
def linesToSort (call : Call) (stop : Char) (path : String) : Act (List String) := do
  match ← readInput path with
  | .ok text => return (linesOf stop text).map fun line => (withoutStop stop line).1
  | .error e => call.giveUp ("read failed: " ++ call.plainPath path ++ ": " ++ e.description)

/-- Lines without those that are the same as the one before them. -/
def withoutRepeats (order : LineOrder) : List String → List String
  | [] => []
  | line :: rest => line :: go line rest
where
  /-- Goes on behind a line. -/
  go (last : String) : List String → List String
    | [] => []
    | line :: rest =>
      if order.compare last.toList line.toList == .eq then go last rest else line :: go line rest

/-- The first line that is not behind the one before it, with its number. -/
def disorder? (order : LineOrder) (strict : Bool) : (number : Nat) → List String →
    Option (Nat × String)
  | number, a :: b :: rest =>
    let found := order.compare a.toList b.toList
    if found == .gt || (strict && found == .eq) then some (number + 1, b)
    else disorder? order strict (number + 1) (b :: rest)
  | _, _ => none

/-- A key in its old form, whose fields and characters are counted from zero, in the new form:
the start of a key, or its end. Nothing if it is none. -/
def oldPlace? (isEnd : Bool) (text : List Char) : Option String :=
  let digits := text.takeWhile Char.isDigit
  let (chars, rest) := match text.dropWhile Char.isDigit with
    | '.' :: rest => (rest.takeWhile Char.isDigit, rest.dropWhile Char.isDigit)
    | rest => ([], rest)
  let field := Numeral.ofDigits 10 digits
  let char := Numeral.ofDigits 10 chars
  if digits.isEmpty && chars.isEmpty || isEnd && field = 0 && char = 0 then none
  else
    let place := if !isEnd then toString (field + 1) ++ "." ++ toString (char + 1)
      else if char = 0 then toString field
      else toString (field + 1) ++ "." ++ toString char
    some (place ++ String.ofList rest)

/-- Turns keys in their old form, whose ends have an argument of their own, into options. The first
argument is passed over if it was such an end. -/
def oldKeys : (isEnd : Bool) → List String → List String
  | _, [] => []
  | true, _ :: args => oldKeys false args
  | false, arg :: args =>
    let start := match arg.toList with
      | '+' :: text => oldPlace? false text
      | _ => none
    let stop := match args.head?.map String.toList with
      | some ('-' :: c :: text) => if c.isDigit then oldPlace? true (c :: text) else none
      | _ => none
    match start, stop with
    | some start, some stop => "-k" :: (start ++ "," ++ stop) :: oldKeys true args
    | some start, none => "-k" :: start :: oldKeys false args
    | none, _ => arg :: oldKeys false args

/-- Checks that a file can be read. -/
def checkInput (call : Call) (path : String) : Act Unit := do
  if path = "-" then
    if (← Act.channel? 0).isNone then call.giveUp "stat failed: -: Bad file descriptor"
  else if let .error e ← Act.find path then
    call.giveUp ("cannot read: " ++ call.plainPath path ++ ": " ++ e.description)

/-- Finds the first line that is out of order. -/
def checkOrder (call : Call) (given : Given) (order : LineOrder) (stop : Char)
    (files : List String) : Act Nat := do
  let isQuiet := given.has "C" || given.value? "check" == some "quiet"
  if let extra :: _ := files.drop 1 then
    call.giveUp ("extra operand " ++ call.path extra ++ " not allowed with -" ++
      (if isQuiet then "C" else "c"))
  let path := files.headD "-"
  checkInput call path
  match disorder? order (given.has "u") 1 (← linesToSort call stop path) with
  | none => return 0
  | some (number, line) =>
    if !isQuiet then
      call.complain (call.plainPath path ++ ":" ++ toString number ++ ": disorder: " ++ line)
    return 1

/-- Puts lines in order. -/
def sort : Tool := fun call =>
  withOptions ("b,ignore-leading-blanks c C ,check? ,compress-program= ,debug d,dictionary-order " ++
    "f,ignore-case ,files0-from= g,general-numeric-sort i,ignore-nonprinting k,key= m,merge " ++
    "M,month-sort n,numeric-sort h,human-numeric-sort V,version-sort R,random-sort " ++
    ",random-source= ,sort= o,output= r,reverse s,stable ,batch-size= S,buffer-size= " ++
    "t,field-separator= T,temporary-directory= u,unique z,zero-terminated ,parallel=")
    (fun given files call => do
      let order ← lineOrder call given
      let stop := if given.has "z" then '\x00' else '\n'
      for (option, value) in given do
        if option = "check" && !value.isEmpty then
          let _ ← choose call "--check" [("quiet", 0), ("silent", 0), ("diagnose-first", 1)] value
        if option = "parallel" && !value.all Char.isDigit then
          call.giveUp ("invalid --parallel argument '" ++ value ++ "'")
        if option = "S" && (Quantity.read (Quantity.commonUnits ++ ['%']) Quantity.mostUnsigned
            value).toOption.isNone then
          call.giveUp ("invalid -S argument '" ++ value ++ "'")
      let files := inputs files
      if given.has "c" || given.has "C" || given.has "check" then
        return ← checkOrder call given order stop files
      for path in files do checkInput call path
      let target := given.value? "o"
      if let some path := target then
        if (given.values "o").any (· != path) then call.giveUp "multiple output files specified"
        let access : World.Access := { writes := true, makes := true }
        if let .error e ← Act.openPath access path then
          call.giveUp ("open failed: " ++ call.plainPath path ++ ": " ++ e.description)
      let le (a b : String) : Bool := order.compare a.toList b.toList != .gt
      let read ← files.mapM (linesToSort call stop)
      let sorted := if given.has "m" then read.foldl (fun found lines => found.merge lines le) []
        else read.flatten.mergeSort le
      let kept := if given.has "u" then withoutRepeats order sorted else sorted
      let text := String.join (kept.map fun line => line.push stop)
      match target with
      | none => call.result text
      | some path =>
        match ← Act.withFile .writing path fun descriptor => Act.write descriptor text with
        | .ok (.ok ()) => return 0
        | .ok (.error e) => call.refuse ("write failed: " ++ call.plainPath path ++ ": " ++
            e.description)
        | .error e => call.refuse ("open failed: " ++ call.plainPath path ++ ": " ++ e.description))
    { call with trouble := 2, args := oldKeys false call.args }

end StagedBuild.Script.Tools
