import StagedBuild.Regex.Basic

/-!
# Matching

A set of places in a text is a number whose bits are the places. From the places where an expression
may start it leads to those where it may end, and back. The match that counts starts as early as
possible and is as long as possible; its groups are found by going through the expression once more,
always taking what comes first and leads to the end.
-/

namespace StagedBuild.Regex

open StagedBuild.Text

/-- An expression for one text: which characters fit, and which places. -/
abbrev Located := Expr Nat Nat

/-- The set with one place. -/
def only (place : Nat) : Nat :=
  Nat.shiftLeft 1 place

/-- The places of a set that are not in another. -/
def without (places others : Nat) : Nat :=
  Nat.xor (Nat.lor places others) others

/-- All places that steps lead to, any number of them. -/
def reach (step : Nat → Nat) : (rounds : Nat) → (seen new : Nat) → Nat
  | 0, seen, _ => seen
  | rounds + 1, seen, new =>
    if new = 0 then seen
    else
      let next := without (step new) seen
      reach step rounds (Nat.lor seen next) next

/-- The places that at most so many steps lead to. -/
def reachIn (step : Nat → Nat) : (count : Nat) → (seen new : Nat) → Nat
  | 0, seen, _ => seen
  | count + 1, seen, new =>
    if new = 0 then seen
    else
      let next := step new
      reachIn step count (Nat.lor seen next) next

/-- The places that exactly so many steps lead to. -/
def repeated (step : Nat → Nat) : (count : Nat) → (places : Nat) → Nat
  | 0, places => places
  | count + 1, places => if places = 0 then 0 else repeated step count (step places)

/-- The places that so many steps lead to. -/
def stepMany (step : Nat → Nat) (size least : Nat) (most : Option Nat) (places : Nat) : Nat :=
  let start := repeated step least places
  match most with
  | none => reach step (size + 1) start start
  | some most => reachIn step (most - least) start start

namespace Located

/-- Where an expression leads to in a text of this size. -/
def step (size : Nat) : Located → Nat → Nat
  | .empty => id
  | .one chars => fun places => Nat.shiftLeft (Nat.land places chars) 1
  | .here allowed => fun places => Nat.land places allowed
  | .pair first second => fun places => step size second (step size first places)
  | .either first second => fun places =>
    Nat.lor (step size first places) (step size second places)
  | .many body least most => stepMany (step size body) size least most
  | .group _ body => step size body
  | .again _ => fun _ => 0

/-- From where an expression leads to places. -/
def back (size : Nat) : Located → Nat → Nat
  | .empty => id
  | .one chars => fun places => Nat.land (Nat.shiftRight places 1) chars
  | .here allowed => fun places => Nat.land places allowed
  | .pair first second => fun places => back size first (back size second places)
  | .either first second => fun places =>
    Nat.lor (back size first places) (back size second places)
  | .many body least most => stepMany (back size body) size least most
  | .group _ body => back size body
  | .again _ => fun _ => 0

end Located

/-- The groups that have matched, with where they start and end. -/
abbrev Groups := List (Nat × Nat × Nat)

/-- Notes what a group has matched. -/
def Groups.note (groups : Groups) (number start stop : Nat) : Groups :=
  (number, start, stop) :: groups.filter (·.1 != number)

namespace Located

/-- Goes through a body again and again, as often as possible, as long as it leads to the target. -/
def walkMany (step back : Nat → Nat) (walk : Nat → Nat → Groups → Nat × Groups)
    (size : Nat) : (rounds : Nat) → (least : Nat) → (most : Option Nat) → (start target : Nat) →
    Groups → Nat × Groups
  | 0, _, _, start, _, groups => (start, groups)
  | rounds + 1, least, most, start, target, groups =>
    if most = some 0 then (start, groups)
    else
      let fewer := most.map (· - 1)
      let rest := stepMany back size (least - 1) fewer target
      let onward := without rest (only start)
      if Nat.land (step (only start)) onward != 0 then
        let (stop, groups) := walk start onward groups
        walkMany step back walk size rounds (least - 1) fewer stop target groups
      else if least = 0 then (start, groups)
      else
        let (stop, groups) := walk start (only start) groups
        walkMany step back walk size rounds (least - 1) fewer stop target groups

/-- Goes through an expression from a place to one of the target: where it ends, and its groups. -/
def walk (size : Nat) : Located → (start target : Nat) → Groups → Nat × Groups
  | .empty, start, _, groups | .here _, start, _, groups | .again _, start, _, groups =>
    (start, groups)
  | .one _, start, _, groups => (start + 1, groups)
  | .pair first second, start, target, groups =>
    let (middle, groups) := walk size first start (back size second target) groups
    walk size second middle target groups
  | .either first second, start, target, groups =>
    if Nat.land (step size first (only start)) target != 0 then walk size first start target groups
    else walk size second start target groups
  | .many body least most, start, target, groups =>
    walkMany (step size body) (back size body) (walk size body) size (size + least + 1) least most
      start target groups
  | .group number body, start, target, groups =>
    let (stop, groups) := walk size body start target groups
    (stop, groups.note number start stop)

/-- All ways through a body, any number of times; no round may be empty that need not be there. -/
def pathsMany (paths : Nat → Groups → List (Nat × Groups)) : (rounds : Nat) → (least : Nat) →
    (most : Option Nat) → (start : Nat) → Groups → List (Nat × Groups)
  | 0, _, _, start, groups => [(start, groups)]
  | rounds + 1, least, most, start, groups =>
    if most = some 0 then [(start, groups)]
    else
      let further := (paths start groups).flatMap fun (stop, groups) =>
        if stop = start && least = 0 then []
        else pathsMany paths rounds (least - 1) (most.map (· - 1)) stop groups
      if least = 0 then further ++ [(start, groups)] else further

/-- All ways through an expression from a place, where `same` says how far the text of a group is
repeated there. -/
def paths (size : Nat) (same : (first stop place : Nat) → Option Nat) :
    Located → (start : Nat) → Groups → List (Nat × Groups)
  | .empty, start, groups => [(start, groups)]
  | .here allowed, start, groups => if allowed.testBit start then [(start, groups)] else []
  | .one chars, start, groups => if chars.testBit start then [(start + 1, groups)] else []
  | .pair first second, start, groups =>
    (paths size same first start groups).flatMap fun (middle, groups) =>
      paths size same second middle groups
  | .either first second, start, groups =>
    paths size same first start groups ++ paths size same second start groups
  | .many body least most, start, groups =>
    pathsMany (paths size same body) (size + least + 1) least most start groups
  | .group number body, start, groups =>
    (paths size same body start groups).map fun (stop, groups) =>
      (stop, groups.note number start stop)
  | .again number, start, groups =>
    match groups.lookup number with
    | none => []
    | some (first, stop) => (same first stop start).toList.map fun place => (place, groups)

end Located

/-- A text, with an expression looked up in it. -/
structure Search where
  units : Array Spelt
  located : Located
  looksBack : Bool
  ignoresCase : Bool

/-- A match: where it starts and ends, and its groups. -/
structure Match where
  start : Nat
  stop : Nat
  groups : Groups := []
  deriving Repr

/-- The set of the places that satisfy something. -/
def placesWhere (holds : Nat → Bool) (count : Nat) : Nat :=
  (List.range count).foldl (fun set place =>
    if holds place then Nat.lor set (only place) else set) 0

/-- Looks an expression up in a text. -/
def searchIn (regex : Regex) (text : String) : Search :=
  let units := (regex.charset.spelt text.toList).toArray
  let one (asked : One) : Nat := placesWhere
    (fun place => (units[place]?).any fun unit =>
      asked.holds regex.charset regex.ignoresCase unit) units.size
  let here (asked : Place) : Nat := placesWhere
    (fun place => asked.holds regex.charset regex.byLines
      (if place = 0 then none else units[place - 1]?) units[place]?) (units.size + 1)
  { units, located := regex.expr.map one here, looksBack := regex.expr.looksBack
    ignoresCase := regex.ignoresCase }

namespace Search

/-- How many places there are behind the start. -/
def size (search : Search) : Nat :=
  search.units.size

/-- A unit as it is compared with others. -/
def plain (search : Search) (place : Nat) : Option String :=
  (search.units[place]?).map fun unit =>
    match search.ignoresCase, unit.char with
    | true, some c => (toSmall c).toString
    | _, _ => unit.octets

/-- Where a stretch of text ends that is repeated at a place. -/
def same (search : Search) (first stop place : Nat) : Option Nat :=
  let isSame := (List.range (stop - first)).all fun i =>
    place + i < search.size && search.plain (first + i) == search.plain (place + i)
  if isSame then some (place + (stop - first)) else none

/-- The longest match that starts at a place. -/
def at? (search : Search) (start : Nat) : Option Match :=
  if search.looksBack then
    let found := Located.paths search.size search.same search.located start []
    let longest := found.foldl (fun (best : Option (Nat × Groups)) (stop, groups) =>
      match best with
      | some (other, _) => if other < stop then some (stop, groups) else best
      | none => some (stop, groups)) none
    longest.map fun (stop, groups) => { start, stop, groups }
  else
    let ends := Located.step search.size search.located (only start)
    if ends = 0 then none
    else
      let stop := Nat.log2 ends
      let (_, groups) := Located.walk search.size search.located start (only stop) []
      some { start, stop, groups }

/-- The first match that starts at a place or behind it. -/
def from? (search : Search) (place : Nat) : Option Match :=
  let all := only (search.size + 1) - 1
  let starts := if search.looksBack then all else Located.back search.size search.located all
  (List.range (search.size + 1 - place)).findSome? fun i =>
    if starts.testBit (place + i) then search.at? (place + i) else none

/-- Where matches end that start at a place, the longest first. -/
def endsAt (search : Search) (start : Nat) : List Nat :=
  let ends := if search.looksBack then
    (Located.paths search.size search.same search.located start []).foldl
      (fun set (stop, _) => Nat.lor set (only stop)) 0
    else Located.step search.size search.located (only start)
  ((List.range (search.size + 1)).filter ends.testBit).reverse

/-- There is a match. -/
def succeeds (search : Search) : Bool :=
  if search.looksBack then (search.from? 0).isSome
  else Located.step search.size search.located (only (search.size + 1) - 1) != 0

/-- The text between two places. -/
def text (search : Search) (start stop : Nat) : String :=
  String.join ((search.units.extract start stop).toList.map (·.octets))

/-- The text of a group; none for a group that has matched nothing. -/
def groupText (search : Search) (found : Match) (number : Nat) : String :=
  if number = 0 then search.text found.start found.stop
  else match found.groups.lookup number with
    | some (start, stop) => search.text start stop
    | none => ""

end Search

end StagedBuild.Regex
