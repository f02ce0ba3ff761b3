import StagedBuild.Text.Cut

/-!
# Rights of files

Who may read, write and run a file: a number to the base eight, or letters, and changes that are
written with letters.
-/

namespace StagedBuild.Script.Rights

/-- All rights: three for the owner, for the group and for others. -/
def all : Nat := 511

/-- A number to the base eight. -/
def octal? (digits : List Char) : Option Nat :=
  digits.foldlM (fun value c =>
    if '0' ≤ c && c < '8' then some (8 * value + (c.toNat - 48)) else none) 0

/-- The rights of a kind for one of the three classes, as letters. -/
def text (rights : Nat) : String :=
  String.ofList (([(4, 'r'), (2, 'w'), (1, 'x')].filter fun (bit, _) =>
    rights &&& bit != 0).map (·.2))

/-- The classes with their letters and the places of their rights. -/
def classes : List (Char × Nat) := [('u', 64), ('g', 8), ('o', 1)]

/-- The rights that letters name, when others are in force. -/
def named? (rights : Nat) (letters : List Char) : Option Nat :=
  letters.foldlM (fun found letter =>
    match letter with
    | 'r' => some (found ||| 4)
    | 'w' => some (found ||| 2)
    | 'x' => some (found ||| 1)
    | 'X' => some (if rights &&& 73 != 0 then found ||| 1 else found)
    | 's' | 't' => some found
    | letter => (classes.lookup letter).map fun place => found ||| (rights / place % 8)) 0

/-- Carries out the changes that follow the letters of classes. At most `count` are read. -/
def change (who : Nat) : (count : Nat) → (rights : Nat) → List Char → Option Nat
  | _, rights, [] => some rights
  | 0, _, _ => none
  | count + 1, rights, sign :: rest => do
    let isSign (c : Char) : Bool := ['+', '-', '='].contains c
    let found := who * (← named? rights (rest.takeWhile (!isSign ·)))
    let rest := rest.dropWhile (!isSign ·)
    let without := rights &&& (all ^^^ (7 * who))
    match sign with
    | '+' => change who count (rights ||| found) rest
    | '-' => change who count (rights &&& (all ^^^ found)) rest
    | '=' => change who count (without ||| found) rest
    | _ => none

/-- Carries out one of the changes between commas. -/
def changeBy (rights : Nat) (clause : List Char) : Option Nat :=
  let isClass (c : Char) : Bool := c == 'a' || (classes.lookup c).isSome
  let letters := clause.takeWhile isClass
  let whole := letters.isEmpty || letters.contains 'a'
  let named := classes.filter fun (letter, _) => whole || letters.contains letter
  let who := named.foldl (fun sum (_, rights) => sum + rights) 0
  match clause.dropWhile isClass with
  | [] => none
  | rest => change who (rest.length + 1) rights rest

/-- The rights after changes that are separated by commas. -/
def changed? (rights : Nat) (changes : String) : Option Nat :=
  (Text.splitOn ',' changes.toList).foldlM changeBy rights

end StagedBuild.Script.Rights
