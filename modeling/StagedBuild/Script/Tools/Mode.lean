import StagedBuild.Script.Rights

/-!
# Modes

How tools are told which rights a file shall have: a number to the base eight, or changes with
letters for classes, a sign, and letters for rights. Besides the rights of the three classes there
are three marks: a program runs for its owner or for its group, and in a directory everybody removes
only what is their own.
-/

namespace StagedBuild.Script.Tools

/-- All rights and marks. -/
def allRights : Nat := 4095

/-- The marks for programs that run for their owner or their group. -/
def ownerMark : Nat := 2048
@[inherit_doc ownerMark] def groupMark : Nat := 1024

/-- What a change takes rights from. -/
inductive Granted where
  | rights (rights : Nat)
  /-- Rights, and those to run what can be run already and to enter directories. -/
  | runIfAny (rights : Nat)
  /-- The rights that a class has, for all classes. -/
  | copied (from_ : Nat)
  deriving DecidableEq, Repr

/-- One change of rights. -/
structure ModeChange where
  sign : Char
  /-- The rights of the classes it is for; none if no classes are named. -/
  affected : Nat
  granted : Granted
  /-- The marks of directories that it may change. -/
  mentioned : Nat
  deriving DecidableEq, Repr

/-- Changes of rights, one after another. -/
abbrev Mode := List ModeChange

namespace Mode

/-- Rights without those of others. -/
def without (rights others : Nat) : Nat :=
  rights &&& (allRights ^^^ (others &&& allRights))

/-- The rights of the classes of a letter, with their marks. -/
def classOf? : Char → Option Nat
  | 'u' => some (2048 + 448)
  | 'g' => some (1024 + 56)
  | 'o' => some (512 + 7)
  | 'a' => some allRights
  | _ => none

/-- The rights for all classes that a letter stands for. -/
def rightOf? : Char → Option Nat
  | 'r' => some 292
  | 'w' => some 146
  | 'x' => some 73
  | 's' => some (ownerMark + groupMark)
  | 't' => some 512
  | _ => none

/-- A number to the base eight that stands for rights. -/
def number? (digits : List Char) : Option Nat :=
  (Rights.octal? digits).filter (· ≤ allRights)

/-- A letter of a class whose rights are copied. -/
def copied? : Char → Option Nat
  | 'u' => some 448
  | 'g' => some 56
  | 'o' => some 7
  | _ => none

/-- Reads what a sign grants: a number, a class, or letters of rights. -/
def readGranted? (affected : Nat) (text : List Char) :
    Option (Nat × Granted × Option Nat × List Char) :=
  let digits := text.takeWhile Char.isDigit
  if !digits.isEmpty then do
    let rest := text.dropWhile Char.isDigit
    if affected != 0 || !(rest.isEmpty || rest.head? == some ',') then none
    return (allRights, .rights (← number? digits), some allRights, rest)
  else match text.head?.bind copied? with
    | some found => some (affected, .copied found, none, text.tail)
    | none =>
      let isRight (c : Char) : Bool := c == 'X' || (rightOf? c).isSome
      let letters := text.takeWhile isRight
      let rights := letters.foldl (fun found c => found ||| (rightOf? c).getD 0) 0
      let granted := if letters.contains 'X' then Granted.runIfAny rights else .rights rights
      some (affected, granted, none, text.dropWhile isRight)

/-- Reads changes behind the letters of classes. At most `count` are read. -/
def readChanges? (affected : Nat) : (count : Nat) → List Char → Option (Mode × List Char)
  | 0, _ => none
  | count + 1, text =>
    match text with
    | sign :: rest =>
      if !"+-=".contains sign then none
      else do
        let (affected', granted, mentioned, rest) ← readGranted? affected rest
        let value := match granted with
          | .rights rights | .runIfAny rights | .copied rights => rights
        let own := if affected = 0 then value else affected &&& value
        let change : ModeChange := ⟨sign, affected', granted, mentioned.getD own⟩
        match rest with
        | [] => return ([change], [])
        | ',' :: _ => return ([change], rest)
        | _ => do
          let (changes, rest) ← readChanges? affected count rest
          return (change :: changes, rest)
    | [] => none

/-- Reads changes with commas between them. -/
def readClauses? : (count : Nat) → List Char → Option Mode
  | 0, _ => none
  | count + 1, text => do
    let isClass (c : Char) : Bool := (classOf? c).isSome
    let affected := (text.takeWhile isClass).foldl (fun found c =>
      found ||| (classOf? c).getD 0) 0
    let (changes, rest) ← readChanges? affected (text.length + 1) (text.dropWhile isClass)
    match rest with
    | ',' :: rest => return changes ++ (← readClauses? count rest)
    | _ => return changes

/-- The mode that a text denotes. -/
def ofText? (text : String) : Option Mode :=
  let chars := text.toList
  if chars.head?.any Char.isDigit then do
    let rights ← number? chars
    let mentioned := if chars.length < 5 then
      (rights &&& (ownerMark + groupMark)) ||| 1023 else allRights
    return [⟨'=', allRights, .rights rights, mentioned⟩]
  else readClauses? (chars.length + 1) chars

/-- The rights after a change, when the `mask` keeps rights from classes that are not named. -/
def change (isDirectory : Bool) (mask rights : Nat) (change : ModeChange) : Nat :=
  let kept := if isDirectory then without (ownerMark + groupMark) change.mentioned else 0
  let value := match change.granted with
    | .rights value => value
    | .runIfAny value =>
      if rights &&& 73 != 0 || isDirectory then value ||| 73 else value
    | .copied source =>
      let found := rights &&& source
      [292, 146, 73].foldl (fun sum bits => if found &&& bits != 0 then sum ||| bits else sum) found
  let value := if change.affected = 0 then without value mask else value &&& change.affected
  let value := without value kept
  match change.sign with
  | '+' => rights ||| value
  | '-' => without rights value
  | _ =>
    let preserved := kept ||| (if change.affected = 0 then 0 else without allRights change.affected)
    (rights &&& preserved) ||| value

/-- The rights after all changes of a mode. -/
def apply (mode : Mode) (isDirectory : Bool) (mask rights : Nat) : Nat :=
  mode.foldl (change isDirectory mask) (rights &&& allRights)

end Mode

/-- Rights with a letter or a hyphen for each. A mark takes the place of the right to run. -/
def rightsText (rights : Nat) : String :=
  let one (place mark : Nat) (with_ without : Char) : List Char :=
    let has (bit : Nat) : Bool := rights &&& (bit * place) != 0
    let marked := rights &&& mark != 0
    [if has 4 then 'r' else '-', if has 2 then 'w' else '-',
     if marked then (if has 1 then with_ else without) else if has 1 then 'x' else '-']
  String.ofList (one 64 ownerMark 's' 'S' ++ one 8 groupMark 's' 'S' ++ one 1 512 't' 'T')

/-- Rights as a number of at least four digits to the base eight. -/
def rightsNumber (rights : Nat) : String :=
  let digits := Nat.toDigits 8 rights
  String.ofList (List.replicate (4 - digits.length) '0' ++ digits)

end StagedBuild.Script.Tools
