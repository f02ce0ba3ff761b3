import StagedBuild.Toml.Codec
import StagedBuild.Toolchain

/-!
# The configuration file

The tools may be set in a TOML file with the keys `language`, `compiler` and `runtime`; a key that
is absent keeps its default. The keys of a document are looked at in their alphabetical order, so
the order in which they are written does not matter, not even for which of two errors is reported.
-/

namespace StagedBuild

/-- Why a configuration file is refused. -/
inductive ConfigError where
  /-- The text is not a TOML document. -/
  | malformed
  /-- A number is misspelt or out of range, or the language is given in a form that names none. -/
  | unusable
  /-- A key that has no meaning here. -/
  | unknownField (key : String)
  /-- The name of no language. -/
  | unknownVariant (name : String)
  /-- A value that is not a path. -/
  | invalidType (found : String)
  deriving DecidableEq, Repr

/-- The error's text; the text of the other errors is not fixed. -/
def ConfigError.message? : ConfigError → Option String
  | .malformed | .unusable => none
  | .unknownField key =>
    some ("unknown field `" ++ key ++ "`, expected one of `language`, `compiler`, `runtime`")
  | .unknownVariant name => some ("unknown variant `" ++ name ++ "`, expected `kotlin`")
  | .invalidType found => some ("invalid type: " ++ found ++ ", expected path string")

namespace ToolchainConfig

/-- The first number that does not fit into so many bits. -/
def limit (bits : Nat) : Int := Nat.pow 2 bits

/-- How an integer is described: those that need more than 64 bits with the width they need. -/
def integerText? (n : Int) : Option String :=
  if -limit 63 ≤ n ∧ n < limit 64 then some ("integer `" ++ toString n ++ "`")
  else if -limit 127 ≤ n ∧ n < limit 127 then some ("integer `" ++ toString n ++ "` as i128")
  else if 0 ≤ n ∧ n < limit 128 then some ("integer `" ++ toString n ++ "` as u128")
  else none

/-- How a value that is not a string is described, if it can be read at all. -/
def typeText? : Toml.Value → Option String
  | .string text => some ("string \"" ++ text ++ "\"")
  | .integer n => integerText? n
  | .misspelt _ => none
  | .float literal => literal.text?.map fun text => "floating point `" ++ text ++ "`"
  | .boolean value => some ("boolean `" ++ toString value ++ "`")
  | .array _ => some "sequence"
  | .table _ | .datetime _ => some "map"

/-- The path that a value gives. -/
def pathOf : Toml.Value → Except ConfigError String
  | .string text => .ok text
  | value => match typeText? value with
    | some found => .error (.invalidType found)
    | none => .error .unusable

/-- The language of this name. -/
def languageNamed (name : String) : Except ConfigError Target :=
  if name = Target.kotlin.name then .ok .kotlin else .error (.unknownVariant name)

/-- The value holds nothing. -/
def isEmptyValue : Toml.Value → Bool
  | .array [] | .table [] => true
  | _ => false

/-- The language that a value gives: its name, or a table whose one key is the name. -/
def languageOf : Toml.Value → Except ConfigError Target
  | .string name => languageNamed name
  | .table [(name, value)] => do
    let language ← languageNamed name
    if isEmptyValue value then .ok language else .error .unusable
  | _ => .error .unusable

/-- Takes one key of a document into the configuration. -/
def setField (config : ToolchainConfig) (field : String × Toml.Value) :
    Except ConfigError ToolchainConfig :=
  if field.1 = "language" then return { config with language := ← languageOf field.2 }
  else if field.1 = "compiler" then return { config with compiler := ← pathOf field.2 }
  else if field.1 = "runtime" then return { config with runtime := ← pathOf field.2 }
  else .error (.unknownField field.1)

/-- The keys of a table in alphabetical order. -/
def sortedFields (table : Toml.Table) : Toml.Table :=
  table.mergeSort fun a b => decide (a.1 ≤ b.1)

/-- The configuration that a table describes. -/
def ofTable (table : Toml.Table) : Except ConfigError ToolchainConfig :=
  (sortedFields table).foldlM setField {}

/-- The configuration that a text describes to a reader. -/
def parseWith (codec : Toml.Codec) (text : String) : Except ConfigError ToolchainConfig :=
  match codec.read? text with
  | some table => ofTable table
  | none => .error .malformed

/-- The configuration that a text describes. -/
def parse (text : String) : Except ConfigError ToolchainConfig :=
  parseWith .toml text

/-- The keys of a configuration file, with the strings they are given. -/
def fields (config : ToolchainConfig) : List (String × String) :=
  [("language", config.language.name), ("compiler", config.compiler), ("runtime", config.runtime)]

/-- The configuration as the text of a file. -/
def toToml (config : ToolchainConfig) : String :=
  Toml.Codec.toml.write config.fields

end ToolchainConfig

end StagedBuild
