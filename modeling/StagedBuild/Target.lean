/-!
# Target languages

The languages that generated sources are written in. A language is named by its full name or by
its file extension, in any mixture of cases (`Target.ofName?`).
-/

namespace StagedBuild

/-- A language that sources are generated in. -/
inductive Target where
  | kotlin
  deriving DecidableEq, Repr, Inhabited

namespace Target

/-- The name used in configuration files. -/
def name : Target → String
  | .kotlin => "kotlin"

/-- The name used in messages. -/
def displayName : Target → String
  | .kotlin => "Kotlin"

/-- Extension of a source file, without the dot. -/
def extension : Target → String
  | .kotlin => "kt"

/-- File name of the archive that compiled sources are packed into. -/
def archiveName : Target → String
  | .kotlin => "kotlin.jar"

/-- Lower case as far as it can lead to an ASCII letter: apart from A to Z only the Kelvin sign
has an ASCII letter as its lower case. -/
def foldCase (c : Char) : Char :=
  if c = Char.ofNat 0x212A then 'k' else c.toLower

/-- No language has this name. -/
structure UnknownName where
  name : String
  deriving DecidableEq, Repr

/-- The message for a name that no language has. -/
def UnknownName.message (e : UnknownName) : String :=
  s!"unknown target language '{e.name}', expected 'kotlin'"

/-- The language with this name or extension, whatever its case. -/
def ofName? (text : String) : Except UnknownName Target :=
  let folded := String.ofList (text.toList.map foldCase)
  if folded = "kotlin" ∨ folded = "kt" then .ok .kotlin else .error ⟨text⟩

end Target

end StagedBuild
