import StagedBuild.Script.Pattern
import StagedBuild.Script.Tools.Input
import StagedBuild.Script.Tools.Quantity

/-!
# Changing characters

Replacing, deleting and squeezing octets. Sets of octets are written as lists of characters, ranges,
classes and repeated characters; the order of a set says what is replaced by what.
-/

namespace StagedBuild.Script.Tools

open Process

namespace CharSet

/-- An item of a set. -/
inductive Item where
  | char (c : Char)
  | range (first last : Char)
  | named (name : String) (holds : Char → Bool)
  | equal (c : Char)
  /-- A character so many times; as often as need be, without a count. -/
  | repeated (c : Char) (count : Option Nat)

/-- A character of a set, that may have been written with a backslash. -/
structure Sign where
  char : Char
  escaped : Bool
  deriving DecidableEq

/-- The sign is this character and has no backslash. -/
def Sign.is (sign : Sign) (c : Char) : Bool :=
  !sign.escaped && sign.char == c

/-- Replaces escapes; what there is to warn about comes with the signs. -/
def unescape : (count : Nat) → List Char → List Sign × List String
  | 0, _ | _, [] => ([], [])
  | _, ['\\'] =>
    ([⟨'\\', false⟩], ["warning: an unescaped backslash at end of string is not portable"])
  | count + 1, '\\' :: c :: rest =>
    let all := (c :: rest).take 3 |>.takeWhile fun c => '0' ≤ c && c < '8'
    if all.isEmpty then
      let meaning := "abfnrtv\\".toList.zip
        ['\x07', '\x08', '\x0c', '\n', '\r', '\t', '\x0b', '\\']
      let (signs, warnings) := unescape count rest
      (⟨(meaning.lookup c).getD c, true⟩ :: signs, warnings)
    else
      let isGreat := 255 < Numeral.ofDigits 8 all
      let digits := if isGreat then all.take 2 else all
      let (signs, warnings) := unescape count ((c :: rest).drop digits.length)
      let written := String.ofList all
      let warning := "warning: the ambiguous octal escape \\" ++ written ++
        " is being\n\tinterpreted as the 2-byte sequence \\0" ++ String.ofList (all.take 2) ++
        ", " ++ String.ofList (all.drop 2)
      (⟨Char.ofNat (Numeral.ofDigits 8 digits), true⟩ :: signs,
        if isGreat then warning :: warnings else warnings)
  | count + 1, c :: rest =>
    let (signs, warnings) := unescape count rest
    (⟨c, false⟩ :: signs, warnings)

/-- A character as messages show it. -/
def shown (c : Char) : String :=
  if 32 ≤ c.toNat ∧ c.toNat < 127 then c.toString
  else
    let digits := Nat.toDigits 8 c.toNat
    "\\" ++ String.ofList (List.replicate (3 - digits.length) '0' ++ digits)

/-- What stands before a mark and a closing bracket, and what follows them. -/
def upTo? (mark : Char) : List Sign → Option (List Sign × List Sign)
  | a :: b :: rest =>
    if a.is mark && b.is ']' then some ([], rest)
    else (upTo? mark (b :: rest)).map fun (found, rest) => (a :: found, rest)
  | _ => none

/-- Only a count stands before the closing bracket. -/
def isRepeat : List Sign → Bool
  | star :: rest =>
    star.is '*' && match rest.dropWhile fun sign => !sign.escaped && sign.char.isDigit with
      | closing :: _ => closing.is ']'
      | [] => false
  | [] => false

/-- A class or a character in double brackets, if the brackets are closed. -/
def inBrackets? (call : Call) (mark : Char) (text : List Sign) :
    Except String (Option (Item × List Sign)) := do
  match upTo? mark text with
  | none => return none
  | some (inside, rest) =>
    let name := String.ofList (inside.map (·.char))
    if inside.isEmpty then
      throw (if mark = ':' then "missing character class name '[::]'"
        else "missing equivalence class character '[==]'")
    if mark = ':' then
      match Pattern.class? name with
      | some holds => return some (.named name holds, rest)
      | none =>
        if isRepeat text then return none
        throw ("invalid character class " ++ call.quoted (String.join
          (name.toList.map shown)))
    else match inside with
      | [sign] => return some (.equal sign.char, rest)
      | _ =>
        if isRepeat text then return none
        throw (String.join (name.toList.map shown) ++
          ": equivalence class operand must be a single character")

/-- A repeated character after an opening bracket, if there is one. -/
def repeated? (call : Call) : List Sign → Except String (Option (Item × List Sign))
  | sign :: star :: rest => do
    if !star.is '*' then return none
    let digits := rest.takeWhile fun sign => !sign.escaped && sign.char != ']'
    match rest.drop digits.length with
    | closing :: rest =>
      if !closing.is ']' then return none
      let text := digits.map (·.char)
      if text.isEmpty then return some (.repeated sign.char none, rest)
      let base := if text.head? = some '0' then 8 else 10
      let count := Numeral.ofDigits base text
      if !text.all (Numeral.isDigitIn base) || Quantity.mostUnsigned ≤ count then
        throw ("invalid repeat count " ++ call.quoted (String.ofList text) ++
          " in [c*n] construct")
      return some (.repeated sign.char (if count = 0 then none else some count), rest)
    | [] => return none
  | _ => return none

/-- Reads the items of a set. -/
def items (call : Call) : (count : Nat) → List Sign → Except String (List Item)
  | 0, _ | _, [] => return []
  | count + 1, sign :: rest => do
    if rest.length < 2 then
      return (sign :: rest).map fun sign => .char sign.char
    let bracketed ← if !sign.is '[' then pure none else do
      let double ← match rest with
        | mark :: inside =>
          if mark.is ':' || mark.is '=' then inBrackets? call mark.char inside else pure none
        | [] => pure none
      match double with
      | some found => pure (some found)
      | none => repeated? call rest
    match bracketed, rest with
    | some (item, rest), _ => return item :: (← items call count rest)
    | none, dash :: last :: rest =>
      if !dash.is '-' then return .char sign.char :: (← items call count (dash :: last :: rest))
      if last.char < sign.char then
        throw ("range-endpoints of '" ++ shown sign.char ++ "-" ++ shown last.char ++
          "' are in reverse collating sequence order")
      return .range sign.char last.char :: (← items call count rest)
    | none, rest => return .char sign.char :: (← items call count rest)

/-- All octets. -/
def allOctets : List Char :=
  (List.range 256).map Char.ofNat

/-- What a class does with the letters of words. -/
inductive Case where
  | upper
  | lower
  deriving DecidableEq

/-- A character of a set: whether it belongs to the class of capital or of small letters, and whether
its item starts with it. -/
structure Member where
  char : Char
  case : Option Case := none
  isFirst : Bool := true
  deriving DecidableEq

/-- The members that an item stands for. -/
def Item.members : Item → List Member
  | .char c | .equal c => [{ char := c }]
  | .range first last => plain ((List.range (last.toNat + 1 - first.toNat)).map fun i =>
      Char.ofNat (first.toNat + i))
  | .repeated c count => plain (List.replicate (count.getD 0) c)
  | .named name holds =>
    let case := [("upper", Case.upper), ("lower", Case.lower)].lookup name
    (plain (allOctets.filter holds)).map fun member => { member with case }
where
  /-- Members of an item without a case. -/
  plain (chars : List Char) : List Member :=
    chars.zipIdx.map fun (c, i) => { char := c, isFirst := i == 0 }

/-- The item is a class. -/
def Item.isNamed : Item → Bool
  | .named .. => true
  | _ => false

/-- The item is repeated as often as need be. -/
def Item.isEndless : Item → Bool
  | .repeated _ none => true
  | _ => false

/-- What follows the members of the first item. -/
def skipItem : List Member → List Member
  | [] => []
  | _ :: rest => rest.dropWhile (!·.isFirst)

/-- Classes of letters in the second set stand opposite to such classes. -/
def isAligned : (count : Nat) → List Member → List Member → Bool
  | 0, _, _ => true
  | count + 1, first, second =>
    match first.head?, second.head? with
    | _, none => true
    | a, some b =>
      if b.case.isNone then a.isNone || isAligned count first.tail second.tail
      else match a with
        | some a => !b.isFirst || (a.isFirst && a.case.isSome &&
            isAligned count (skipItem first) (skipItem second))
        | none => !b.isFirst

/-- How many members count, where classes that stand opposite to each other count once. -/
def lengths : (count : Nat) → List Member → List Member → Nat × Nat
  | 0, _, _ => (0, 0)
  | count + 1, first, second =>
    match first, second with
    | [], second => (0, second.length)
    | first, [] => (first.length, 0)
    | _ :: as, b :: bs =>
      let (m, n) := if b.case.isSome then lengths count (skipItem first) (skipItem second)
        else lengths count as bs
      (m + 1, n + 1)

/-- Which characters are replaced by which. -/
def pairs : (count : Nat) → List Member → List Member → List (Char × Char)
  | 0, _, _ | _, [], _ | _, _, [] => []
  | count + 1, a :: as, b :: bs =>
    let letters (change : Char → Char) : List (Char × Char) :=
      (allOctets.filter fun c => change c != c).map fun c => (c, change c)
    let found := match a.case, b.case with
      | some .lower, some .upper => letters Char.toUpper
      | some .upper, some .lower => letters Char.toLower
      | _, _ => [(a.char, b.char)]
    found ++ if b.case.isSome then pairs count (skipItem (a :: as)) (skipItem (b :: bs))
      else pairs count as bs

/-- The octets of a set, in a table. -/
def table (chars : List Char) : Array Bool :=
  chars.foldl (fun table c => table.setIfInBounds c.toNat true) (Array.replicate 256 false)

/-- What the second set is extended with if it is too short. -/
def lastChar? (items : List Item) : Except String (Option Char) :=
  match items.getLast? with
  | none => .ok none
  | some (.char c) | some (.equal c) | some (.repeated c _) | some (.range _ c) => .ok (some c)
  | some (.named ..) => .error ("when translating with string1 longer than string2,\n" ++
      "the latter string must not end with a character class")

/-- The replacement for each octet. -/
def replacements (complement truncates : Bool) (first second : List Item) :
    Except String (Array Char) := do
  let same := allOctets.toArray
  let firsts := first.flatMap Item.members
  let inFirst := table (firsts.map (·.char))
  let others := allOctets.filter fun c => !inFirst.getD c.toNat false
  let starts := if complement then others.map fun char => { char : Member } else firsts
  let fixed := (second.flatMap Item.members).length
  let second := second.map fun item => match item with
    | .repeated c none => .repeated c (some (starts.length - fixed))
    | item => item
  for item in second do
    if let .equal _ := item then
      throw "[=c=] expressions may not appear in string2 when translating"
  for item in second do
    if let .named name _ := item then
      if name != "upper" && name != "lower" then
        throw ("when translating, the only character classes that may appear in\n" ++
          "string2 are 'upper' and 'lower'")
  let targets := second.flatMap Item.members
  let hasClass := second.any Item.isNamed
  let count := starts.length + targets.length + 1
  if hasClass && !complement && !isAligned count starts targets then
    throw "misaligned [:upper:] and/or [:lower:] construct"
  let (m, n) := if hasClass && !complement then lengths count starts targets
    else (starts.length, targets.length)
  let targets ← if m ≤ n || truncates then pure targets else do
    match ← lastChar? second with
    | none => throw "when not truncating set1, string2 must be non-empty"
    | some c => pure (targets ++ List.replicate (m - n) { char := c })
  let isHomogeneous := targets.all fun member => member.char == (targets.map (·.char)).headD ' '
  if complement && first.any Item.isNamed && !isHomogeneous then
    throw ("when translating with complemented character classes,\n" ++
      "string2 must map all characters in the domain to one")
  let found := pairs (count + m) starts targets
  return found.foldl (fun table (c, target) => table.setIfInBounds c.toNat target) same

end CharSet

/-- What happens to octets: some are deleted, the others replaced, and those of some that repeat the
one before them are left out. -/
structure Changes where
  deleted : Array Bool
  replaced : Array Char
  squeezed : Array Bool

/-- Changes a text that follows a character. -/
def Changes.apply (changes : Changes) (last : Option Char) (text : String) :
    Option Char × String :=
  text.foldl (fun (last, out) c =>
    if changes.deleted.getD c.toNat false then (last, out)
    else
      let c := changes.replaced.getD c.toNat c
      if last == some c && changes.squeezed.getD c.toNat false then (last, out)
      else (some c, out.push c)) (last, "")

/-- The changes that options and sets ask for. -/
def changesOf (given : Given) (first : List CharSet.Item) (second : Option (List CharSet.Item)) :
    Except String Changes := do
  let complement := given.has "c" || given.has "C"
  let chars (items : List CharSet.Item) : List Char :=
    items.flatMap fun item => item.members.map (·.char)
  let none := CharSet.table []
  let same := CharSet.allOctets.toArray
  let firsts := CharSet.table (chars first)
  let firsts := if complement then firsts.map (!·) else firsts
  if first.any CharSet.Item.isEndless then
    throw "the [c*] repeat construct may not appear in string1"
  match second with
  | .none => return if given.has "d" then ⟨firsts, same, none⟩ else ⟨none, same, firsts⟩
  | some second =>
    if 1 < (second.filter CharSet.Item.isEndless).length then
      throw "only one [c*] repeat construct may appear in string2"
    if given.has "d" then
      if second.any CharSet.Item.isEndless then
        throw "the [c*] construct may appear in string2 only when translating"
      return ⟨firsts, same, CharSet.table (chars second)⟩
    let replaced ← CharSet.replacements complement (given.has "t") first second
    let squeezed := if given.has "s" then
      CharSet.table (chars second ++ second.filterMap fun item => match item with
        | .repeated c _ => some c
        | _ => .none) else none
    return ⟨none, replaced, squeezed⟩

/-- Replaces or deletes octets. -/
def tr : Tool := withOptionsFirst
    "A c,complement C d,delete s,squeeze-repeats t,truncate-set1" noneOther fun given sets call => do
  let deletes := given.has "d"
  let squeezes := given.has "s"
  let least := if deletes == squeezes then 2 else 1
  let most := if deletes && !squeezes then 1 else 2
  if sets.length < least then
    let some last := sets.getLast? | call.dismiss "missing operand"
    return ← call.misused ("missing operand after " ++ call.quoted last ++ "\n" ++
      (if squeezes then "Two strings must be given when both deleting and squeezing repeats."
        else "Two strings must be given when translating."))
  if let extra :: _ := sets.drop most then
    return ← call.misused ("extra operand " ++ call.quoted extra ++
      (if sets.length = 2 then
        "\nOnly one string may be given when deleting without squeezing repeats." else ""))
  let readSet (text : String) : Act (List CharSet.Item) := do
    let (signs, warnings) := CharSet.unescape text.length text.toList
    for warning in warnings do call.complain warning
    match CharSet.items call signs.length signs with
    | .ok items => return items
    | .error problem => call.giveUp problem
  let first ← readSet (sets.headD "")
  let second ← sets[1]?.mapM readSet
  match changesOf given first second with
  | .error problem => call.refuse problem
  | .ok changes =>
    let (_, problem) ← overBlocks 0 (fun last block => do
      let (last, text) := changes.apply last block
      call.print text
      return .yield last) Act.maxRounds none
    match problem with
    | none => return 0
    | some e => call.refuse ("read error: " ++ e.description)

end StagedBuild.Script.Tools
