import StagedBuild.Toml.Statement

/-!
# TOML documents

A document is the table that its statements build one after another. It is refused as a whole if
it cannot be split into statements, or if a statement defines something that is already defined.
-/

namespace StagedBuild.Toml

/-- What was built so far, and the path of the last header. -/
structure Draft where
  entries : Node.Entries := []
  current : List String := []

namespace Draft

/-- Carries out one statement. -/
def add? (draft : Draft) : Statement → Option Draft
  | .assign path value =>
    (Node.inside (Node.assign value path) draft.current draft.entries).map fun entries =>
      { draft with entries }
  | .header path =>
    (Node.openTable path draft.entries).map fun entries => { entries, current := path }
  | .arrayHeader path =>
    (Node.openArray path draft.entries).map fun entries => { entries, current := path }

end Draft

/-- The text without the byte order mark that may start it. -/
def withoutMark : List Char → List Char
  | c :: rest => if c = Char.ofNat 0xFEFF then rest else c :: rest
  | [] => []

/-- The table that a list of statements builds. -/
def Table.ofStatements? (statements : List Statement) : Option Table :=
  (statements.foldlM Draft.add? {}).map fun draft => Node.toTable draft.entries

/-- The table that a document's text describes. -/
def Table.ofText? (text : String) : Option Table := do
  let text := withoutMark text.toList
  Table.ofStatements? (← Statement.statements? (text.length + 1) text)

end StagedBuild.Toml
