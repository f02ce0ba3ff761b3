import StagedBuild.Toml.Document
import StagedBuild.Toml.Quoted.Writer

/-!
# Reading and writing documents

A program that keeps its settings in a TOML file needs a reader of documents and a writer of
documents whose keys are given strings. `Codec.toml` is the pair that the program uses.
-/

namespace StagedBuild.Toml

/-- A reader of documents and a writer of documents that give strings to keys. -/
structure Codec where
  /-- The table that a document describes, if it is one. -/
  read? : String → Option Table
  write : List (String × String) → String

/-- The line that gives a string to a key. -/
def fieldLine (key value : String) : String :=
  key ++ " = " ++ String.ofList (Quoted.write value.toList) ++ "\n"

/-- The reader of this library, and the writer that gives each key a line. -/
def Codec.toml : Codec where
  read? := Table.ofText?
  write fields := String.join (fields.map fun (key, value) => fieldLine key value)

end StagedBuild.Toml
