import StagedBuild.Text.Letters
import StagedBuild.Text.Spelling

/-!
# Regular expressions

An expression matches stretches of a text that is a row of characters. What it matches depends on
what single characters and places it asks for; matching works on expressions in which these have been
looked up in the text.
-/

namespace StagedBuild.Regex

open StagedBuild.Text

/-- An expression over kinds of characters and of places. -/
inductive Expr (α β : Type) where
  | empty
  | one (char : α)
  | here (place : β)
  | pair (first second : Expr α β)
  | either (first second : Expr α β)
  /-- The body so many times. -/
  | many (body : Expr α β) (least : Nat) (most : Option Nat)
  | group (number : Nat) (body : Expr α β)
  /-- What a group has matched. -/
  | again (number : Nat)
  deriving Repr, DecidableEq

/-- What is listed in brackets. -/
inductive Listed where
  | char (octets : String)
  | range (first last : Char)
  | named (name : String)
  deriving Repr, DecidableEq

/-- What a single character has to be. -/
inductive One where
  | exactly (octets : String)
  | any
  | listed (inverted : Bool) (items : List Listed)
  deriving Repr, DecidableEq

/-- What a place between characters has to be. -/
inductive Place where
  | lineStart
  | lineEnd
  | textStart
  | textEnd
  | wordStart
  | wordEnd
  | wordEdge
  | noWordEdge
  deriving Repr, DecidableEq

namespace Expr

/-- The expression with its characters and places replaced. -/
def map {α β γ δ : Type} (f : α → γ) (g : β → δ) : Expr α β → Expr γ δ
  | empty => .empty
  | one char => .one (f char)
  | here place => .here (g place)
  | pair first second => .pair (first.map f g) (second.map f g)
  | either first second => .either (first.map f g) (second.map f g)
  | many body least most => .many (body.map f g) least most
  | group number body => .group number (body.map f g)
  | again number => .again number

/-- The expression asks for what a group has matched. -/
def looksBack {α β : Type} : Expr α β → Bool
  | empty | one _ | here _ => false
  | pair first second | either first second => first.looksBack || second.looksBack
  | many body _ _ | group _ body => body.looksBack
  | again _ => true

end Expr

end StagedBuild.Regex

namespace StagedBuild

open StagedBuild.Text

/-- A regular expression. -/
structure Regex where
  expr : Regex.Expr Regex.One Regex.Place
  charset : Charset
  /-- Small letters match capitals, and the other way round. -/
  ignoresCase : Bool := false
  /-- Lines inside of the text have starts and ends. -/
  byLines : Bool := false

namespace Regex

/-- The character of a text unit: an octet that spells none is one itself, where octets are
characters. -/
def charOf (charset : Charset) (unit : Spelt) : Option Char :=
  match unit.char, charset with
  | some c, _ => some c
  | none, .ascii => unit.octets.toList.head?
  | none, .utf8 => none

/-- A character is listed. -/
def Listed.holds (unit : Spelt) (c : Char) : Listed → Bool
  | .char octets => unit.octets == octets
  | .range first last => first ≤ c && c ≤ last
  | .named name => ((Text.class? name).map (· c)).getD false

/-- The same character as a small letter and as a capital. -/
def variants (ignoresCase : Bool) (unit : Spelt) : List Spelt :=
  match ignoresCase, unit.char with
  | true, some c =>
    let spell (c : Char) : Spelt := ⟨Octets.ofText c.toString, some c⟩
    [unit, spell (toSmall c), spell (toCapital c)]
  | _, _ => [unit]

/-- A text unit is what is asked for. -/
def One.holds (charset : Charset) (ignoresCase : Bool) (unit : Spelt) : One → Bool
  | .exactly octets => (variants ignoresCase unit).any (·.octets == octets)
  | .any => (charOf charset unit).isSome
  | .listed inverted items =>
    match charOf charset unit with
    | none => false
    | some _ => ((variants ignoresCase unit).any fun unit =>
        (charOf charset unit).any fun c => items.any (·.holds unit c)) != inverted

/-- The unit is part of a word. -/
def isWord (charset : Charset) (unit : Spelt) : Bool :=
  (charOf charset unit).any isWordChar

/-- A place of a text, between the units before and behind it, is what is asked for. -/
def Place.holds (charset : Charset) (byLines : Bool) (before behind : Option Spelt) :
    Place → Bool :=
  let word (unit : Option Spelt) : Bool := unit.any (isWord charset)
  let newline (unit : Option Spelt) : Bool := byLines && unit.any (·.octets == "\n")
  fun
  | .lineStart => before.isNone || newline before
  | .lineEnd => behind.isNone || newline behind
  | .textStart => before.isNone
  | .textEnd => behind.isNone
  | .wordStart => !word before && word behind
  | .wordEnd => word before && !word behind
  | .wordEdge => word before != word behind
  | .noWordEdge => word before == word behind

end Regex

end StagedBuild
