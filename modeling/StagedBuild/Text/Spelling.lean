import StagedBuild.Text.Cut
import StagedBuild.Text.Octets

/-!
# Spelling characters with octets

Programs take octets for characters as their environment says: one octet for each, or as UTF-8.
Octets that spell no character stand alone.
-/

namespace StagedBuild.Text

/-- How octets are taken for characters. -/
inductive Charset where
  /-- One octet is one character, of which only those below 128 are known. -/
  | ascii
  | utf8
  deriving DecidableEq, Repr, Inhabited

/-- A character with the octets that spell it, or an octet that spells none. -/
structure Spelt where
  octets : String
  char : Option Char
  deriving DecidableEq, Repr

namespace Charset

/-- The charset that the name of a locale ends with. -/
def ofLocale (name : String) : Charset :=
  match splitOn '.' name.toList with
  | [['C'], codeset] =>
    if (codeset.filter Char.isAlphanum).map Char.toLower = "utf8".toList then .utf8 else .ascii
  | _ => .ascii

/-- The charset that variables of the environment ask for: the first of them that is not empty. -/
def ofEnvironment (environment : List (String × String)) : Charset :=
  let values := ["LC_ALL", "LC_CTYPE", "LANG"].filterMap fun name => environment.lookup name
  ofLocale ((values.find? (!·.isEmpty)).getD "")

/-- The first character of octets, and how many octets more it has. -/
def first (c : Char) (rest : List Char) : Option Char × Nat :=
  if c.toNat < 128 then (some c, 0)
  else match Utf8.Lead.ofByte? c.toNat with
    | none => (none, 0)
    | some lead =>
      match (Utf8.continuation lead.count lead.low lead.high lead.bits
        ((rest.take lead.count).map Octets.toByte)).1 with
      | some code => (some (Char.ofNat code), lead.count)
      | none => (none, 0)

/-- The characters that octets spell as UTF-8; `pass` octets belong to one that was seen before. -/
def spelt8 : (pass : Nat) → List Char → List Spelt
  | _, [] => []
  | pass + 1, _ :: rest => spelt8 pass rest
  | 0, c :: rest =>
    let (found, more) := first c rest
    ⟨String.ofList (c :: rest.take more), found⟩ :: spelt8 more rest

/-- The characters that octets spell. -/
def spelt (charset : Charset) (octets : List Char) : List Spelt :=
  match charset with
  | .utf8 => spelt8 0 octets
  | .ascii => octets.map fun c => ⟨c.toString, if c.toNat < 128 then some c else none⟩

end Charset

end StagedBuild.Text
