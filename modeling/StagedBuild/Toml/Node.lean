import StagedBuild.Toml.Value

/-!
# Tables under construction

While a document is read, each table remembers how it came about, because that decides what may
still be added to it. A table opened by a header is complete once the header's lines end; one made
by a dotted key can only grow by dotted keys; one that merely lies on the way to another can still
get its own header. Values, inline tables among them, never change.
-/

namespace StagedBuild.Toml

/-- How a table came about. -/
inductive Origin where
  /-- It lies on the way to a table with a header. -/
  | implied
  /-- A dotted key goes through it. -/
  | dotted
  /-- It has a header of its own. -/
  | header
  deriving DecidableEq, Repr

/-- A key's content while the document is read. -/
inductive Node where
  /-- A complete value. -/
  | value (held : Value)
  /-- A table. -/
  | table (origin : Origin) (entries : List (String × Node))
  /-- An array of tables, the last one first. -/
  | tables (newestFirst : List (List (String × Node)))

namespace Node

/-- The entries of a table under construction. -/
abbrev Entries := List (String × Node)

/-- Replaces the content of a key; a new key goes to the end. -/
def update (key : String) (change : Option Node → Option Node) : Entries → Option Entries
  | [] => (change none).map fun node => [(key, node)]
  | (other, node) :: rest =>
    if other = key then (change (some node)).map fun node => (other, node) :: rest
    else (update key change rest).map ((other, node) :: ·)

/-- Gives a value to a dotted key. The last table on the way has to be made by dotted keys, and no
table on the way may have a header. -/
def assign (value : Value) : List String → Entries → Option Entries
  | [], _ => none
  | [key], entries =>
    update key (fun found => if found.isSome then none else some (.value value)) entries
  | key :: next :: rest, entries => update key (fun found =>
      match found with
      | none => (assign value (next :: rest) []).map (.table .dotted)
      | some (.table origin inner) =>
        if origin = .dotted ∨ (origin = .implied ∧ rest ≠ []) then
          (assign value (next :: rest) inner).map (.table origin)
        else none
      | some (.tables (newest :: older)) =>
        if rest ≠ [] then (assign value (next :: rest) newest).map fun t => .tables (t :: older)
        else none
      | some _ => none) entries

/-- Changes the content at the end of a header's path. Tables on the way are made if they are
missing; in an array of tables the way leads to the last one. -/
def atPath (change : Option Node → Option Node) : List String → Entries → Option Entries
  | [], _ => none
  | [key], entries => update key change entries
  | key :: next :: rest, entries => update key (fun found =>
      match found with
      | none => (atPath change (next :: rest) []).map (.table .implied)
      | some (.table origin inner) => (atPath change (next :: rest) inner).map (.table origin)
      | some (.tables (newest :: older)) =>
        (atPath change (next :: rest) newest).map fun t => .tables (t :: older)
      | some _ => none) entries

/-- Opens a table. It must be new, or lie on the way to another. -/
def openTable (path : List String) : Entries → Option Entries :=
  atPath (fun found =>
    match found with
    | none => some (.table .header [])
    | some (.table .implied inner) => some (.table .header inner)
    | some _ => none) path

/-- Adds an empty table to an array of tables. -/
def openArray (path : List String) : Entries → Option Entries :=
  atPath (fun found =>
    match found with
    | none => some (.tables [[]])
    | some (.tables older) => some (.tables ([] :: older))
    | some _ => none) path

/-- Changes the table that the last header opened. -/
def inside (change : Entries → Option Entries) : List String → Entries → Option Entries
  | [], entries => change entries
  | path, entries => atPath (fun found =>
      match found with
      | some (.table origin inner) => (change inner).map (.table origin)
      | some (.tables (newest :: older)) => (change newest).map fun t => .tables (t :: older)
      | _ => none) path entries

mutual

/-- The value of a finished node. -/
def toValue : Node → Value
  | .value held => held
  | .table _ entries => .table (toTable entries)
  | .tables newestFirst => .array (toTables newestFirst).reverse

/-- The finished table. -/
def toTable : List (String × Node) → List (String × Value)
  | [] => []
  | (key, node) :: rest => (key, toValue node) :: toTable rest

/-- The finished tables of an array. -/
def toTables : List (List (String × Node)) → List Value
  | [] => []
  | entries :: rest => .table (toTable entries) :: toTables rest

end

end Node

/-- The table of an inline table's fields, if no key is defined twice. -/
def inlineTable? (fields : List (List String × Value)) : Option Table :=
  (fields.foldlM (fun entries (path, value) => Node.assign value path entries) []).map
    Node.toTable

end StagedBuild.Toml
