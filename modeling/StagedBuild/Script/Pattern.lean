import StagedBuild.Script

/-!
# Patterns

Patterns of text, as they select files and clauses and cut values: `*` stands for any text, `?` for
any character, and brackets for one of the characters that they list. A literal character stands
for itself.
-/

namespace StagedBuild.Script

/-- A character of a pattern, possibly one that stands for itself. -/
structure Glyph where
  char : Char
  literal : Bool := false
  deriving DecidableEq, Repr

/-- Characters of a pattern. -/
abbrev Pattern := List Glyph

namespace Pattern

/-- The order of octets in ranges: as signed bytes. -/
def rank (c : Char) : Int :=
  if 128 ≤ c.toNat then c.toNat - 256 else c.toNat

/-- The character is a punctuation mark. -/
def isPunctuation (c : Char) : Bool :=
  33 ≤ c.toNat && c.toNat ≤ 126 && !c.isAlphanum

/-- The classes of characters that brackets may name. -/
def class? : String → Option (Char → Bool)
  | "alnum" => some Char.isAlphanum
  | "alpha" => some Char.isAlpha
  | "blank" => some fun c => c == ' ' || c == '\t'
  | "cntrl" => some fun c => c.toNat < 32 || c.toNat == 127
  | "digit" => some Char.isDigit
  | "graph" => some fun c => 33 ≤ c.toNat && c.toNat ≤ 126
  | "lower" => some Char.isLower
  | "print" => some fun c => 32 ≤ c.toNat && c.toNat ≤ 126
  | "punct" => some isPunctuation
  | "space" => some fun c => c == ' ' || (9 ≤ c.toNat && c.toNat ≤ 13)
  | "upper" => some Char.isUpper
  | "xdigit" => some fun c => c.isDigit || ('a' ≤ c && c ≤ 'f') || ('A' ≤ c && c ≤ 'F')
  | _ => none

/-- What is listed in brackets. -/
inductive Listed where
  | range (first last : Char)
  | named (name : String)
  deriving DecidableEq, Repr

/-- The character is among those listed. -/
def Listed.holds (c : Char) : Listed → Bool
  | .range first last => rank first ≤ rank c && rank c ≤ rank last
  | .named name => ((class? name).map (· c)).getD false

/-- The glyph is this character and does not stand for itself. -/
def Glyph.isSign (glyph : Glyph) (c : Char) : Bool :=
  !glyph.literal && glyph.char == c

/-- Reads the name of a class after its bracket and colon. -/
def className? (pattern : Pattern) : Option (String × Pattern) :=
  let name := pattern.takeWhile fun glyph => glyph.char != ':'
  match pattern.dropWhile fun glyph => glyph.char != ':' with
  | colon :: closing :: rest =>
    let name := String.ofList (name.map (·.char))
    if Glyph.isSign colon ':' && Glyph.isSign closing ']' && (class? name).isSome then
      some (name, rest)
    else none
  | _ => none

/-- Reads what brackets list, up to the closing bracket, which counts only after the `first`
character. Nothing if it is missing. -/
def listed? : (count : Nat) → (first : Bool) → Pattern → Option (List Listed × Pattern)
  | 0, _, _ => none
  | _, _, [] => none
  | count + 1, first, glyph :: rest =>
    if Glyph.isSign glyph ']' && !first then some ([], rest)
    else
      let named := match glyph, rest with
        | ⟨'[', false⟩, ⟨':', false⟩ :: rest => className? rest
        | _, _ => none
      match named with
      | some (name, rest) =>
        (listed? count false rest).map fun (found, rest) => (.named name :: found, rest)
      | none =>
        let range := match rest with
          | dash :: last :: rest =>
            if Glyph.isSign dash '-' && !Glyph.isSign last ']' then
              some (Listed.range glyph.char last.char, rest)
            else none
          | _ => none
        let (item, rest) := range.getD (.range glyph.char glyph.char, rest)
        (listed? count false rest).map fun (found, rest) => (item :: found, rest)

/-- One step of a pattern. -/
inductive Step where
  | anyText
  | anyChar
  | char (c : Char)
  | oneOf (inverted : Bool) (listed : List Listed)
  deriving DecidableEq, Repr

/-- The steps of a pattern. A backslash makes the next character literal; a bracket that is not
closed stands for itself. -/
def steps : (count : Nat) → Pattern → List Step
  | 0, _ | _, [] => []
  | count + 1, glyph :: rest =>
    if glyph.literal then .char glyph.char :: steps count rest
    else match glyph.char with
      | '*' => .anyText :: steps count rest
      | '?' => .anyChar :: steps count rest
      | '\\' =>
        match rest with
        | next :: rest => .char next.char :: steps count rest
        | [] => [.char '\\']
      | '[' =>
        let (inverted, inside) := match rest with
          | ⟨'!', false⟩ :: inside => (true, inside)
          | inside => (false, inside)
        match listed? (inside.length + 1) true inside with
        | some (found, rest) => .oneOf inverted found :: steps count rest
        | none => .char '[' :: steps count rest
      | c => .char c :: steps count rest

/-- A character fits one step that is not for any text. -/
def Step.fits (c : Char) : Step → Bool
  | .anyText => false
  | .anyChar => true
  | .char expected => c == expected
  | .oneOf inverted found => found.any (·.holds c) != inverted

/-- The text fits the steps as a whole. -/
def fits : List Step → List Char → Bool
  | [], text => text.isEmpty
  | .anyText :: steps, [] => fits steps []
  | .anyText :: steps, c :: text => fits steps (c :: text) || fits (.anyText :: steps) text
  | _ :: _, [] => false
  | step :: steps, c :: text => step.fits c && fits steps text
termination_by steps text => (text.length, steps.length)

/-- The text fits the pattern as a whole. -/
def accepts (pattern : Pattern) (text : String) : Bool :=
  fits (steps (pattern.length + 1) pattern) text.toList

/-- The pattern that a tool is given: a caret in brackets means the same as an exclamation mark. -/
def ofText (text : String) : Pattern :=
  let chars := text.toList
  (chars.zip ('\x00' :: chars)).map fun (c, last) =>
    ⟨if c = '^' ∧ last = '[' then '!' else c, false⟩

/-- The pattern has a sign that does not stand for itself, and no backslash is before it. -/
def hasSigns : Pattern → Bool
  | [] => false
  | glyph :: rest =>
    if glyph.literal then hasSigns rest
    else match glyph.char, rest with
      | '\\', _ :: rest => hasSigns rest
      | c, rest => ['*', '?', '['].contains c || hasSigns rest

/-- The pattern as text, every character standing for itself. -/
def text (pattern : Pattern) : String :=
  String.ofList (pattern.map (·.char))

/-- The text that a pattern without signs matches: backslashes are dropped. -/
def plainText : Pattern → List Char
  | [] => []
  | glyph :: rest =>
    match glyph, rest with
    | ⟨'\\', false⟩, next :: rest => next.char :: plainText rest
    | ⟨'\\', false⟩, [] => []
    | glyph, rest => glyph.char :: plainText rest

/-- What is left of a value when the shortest or the longest part at one end that fits is cut
off. -/
def trim (side : Side) (longest : Bool) (pattern : Pattern) (value : String) : String :=
  let chars := value.toList
  let steps := steps (pattern.length + 1) pattern
  let cuts := List.range (chars.length + 1)
  match side with
  | .front =>
    let cuts := if longest then cuts.reverse else cuts
    match cuts.find? fun n => fits steps (chars.take n) with
    | some n => String.ofList (chars.drop n)
    | none => value
  | .back =>
    let cuts := if longest then cuts else cuts.reverse
    match cuts.find? fun n => fits steps (chars.drop n) with
    | some n => String.ofList (chars.take n)
    | none => value

end Pattern

end StagedBuild.Script
