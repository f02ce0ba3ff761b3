import Mathlib.Data.List.Nodup
import StagedBuild.Toml.Document

/-!
# The keys of a document

A document is refused when it defines a key twice, so the table it describes has no key twice
(`keys_nodup`). Every statement comes down to one call of `Node.update` on the entries so far, which
keeps the keys and adds at most the one it is about.
-/

namespace StagedBuild.Toml

namespace Node

/-- A change of one key keeps the keys, or adds this one behind them. -/
theorem keys_update {key : String} {change : Option Node → Option Node} {entries after : Entries}
    (updated : update key change entries = some after) :
    after.map Prod.fst = entries.map Prod.fst ∨
      key ∉ entries.map Prod.fst ∧ after.map Prod.fst = entries.map Prod.fst ++ [key] := by
  induction entries generalizing after with
  | nil =>
    simp only [update, Option.map_eq_some_iff] at updated
    obtain ⟨node, _, rfl⟩ := updated
    exact .inr ⟨by simp, rfl⟩
  | cons entry entries ih =>
    obtain ⟨other, node⟩ := entry
    unfold update at updated
    split at updated
    next same =>
      simp only [Option.map_eq_some_iff] at updated
      obtain ⟨changed, _, rfl⟩ := updated
      exact .inl rfl
    next different =>
      simp only [Option.map_eq_some_iff] at updated
      obtain ⟨rest, updated, rfl⟩ := updated
      rcases ih updated with kept | ⟨new, added⟩
      · exact .inl (by simp [kept])
      · exact .inr ⟨by simp [new, Ne.symm different], by simp [added]⟩

/-- No key is defined twice. -/
def Distinct (entries : Entries) : Prop :=
  (entries.map Prod.fst).Nodup

theorem Distinct.update {key : String} {change : Option Node → Option Node}
    {entries after : Entries} (distinct : Distinct entries)
    (updated : update key change entries = some after) : Distinct after := by
  unfold Distinct
  rcases keys_update updated with kept | ⟨new, added⟩
  · rw [kept]
    exact distinct
  · rw [added, ← List.concat_eq_append]
    exact List.Nodup.concat new distinct

theorem Distinct.assign {value : Value} {path : List String} {entries after : Entries}
    (distinct : Distinct entries) (assigned : assign value path entries = some after) :
    Distinct after := by
  match path with
  | [] => exact nomatch assigned
  | [key] => exact distinct.update assigned
  | key :: next :: rest => exact distinct.update assigned

theorem Distinct.atPath {change : Option Node → Option Node} {path : List String}
    {entries after : Entries} (distinct : Distinct entries)
    (changed : atPath change path entries = some after) : Distinct after := by
  match path with
  | [] => exact nomatch changed
  | [key] => exact distinct.update changed
  | key :: next :: rest => exact distinct.update changed

theorem keys_toTable (entries : Entries) :
    (toTable entries).map Prod.fst = entries.map Prod.fst := by
  induction entries with
  | nil => rfl
  | cons entry entries ih =>
    obtain ⟨key, node⟩ := entry
    rw [toTable, List.map_cons, ih, List.map_cons]

end Node

/-- No statement defines a key a second time. -/
theorem Draft.distinct_add? {draft next : Draft} {statement : Statement}
    (distinct : Node.Distinct draft.entries) (added : draft.add? statement = some next) :
    Node.Distinct next.entries := by
  cases statement with
  | assign path value =>
    simp only [add?, Option.map_eq_some_iff] at added
    obtain ⟨entries, assigned, rfl⟩ := added
    unfold Node.inside at assigned
    split at assigned
    · exact distinct.assign assigned
    · exact distinct.atPath assigned
  | header path =>
    simp only [add?, Option.map_eq_some_iff] at added
    obtain ⟨entries, opened, rfl⟩ := added
    exact distinct.atPath opened
  | arrayHeader path =>
    simp only [add?, Option.map_eq_some_iff] at added
    obtain ⟨entries, opened, rfl⟩ := added
    exact distinct.atPath opened

theorem Draft.distinct_foldlM {statements : List Statement} {draft next : Draft}
    (distinct : Node.Distinct draft.entries)
    (built : statements.foldlM Draft.add? draft = some next) : Node.Distinct next.entries := by
  induction statements generalizing draft with
  | nil =>
    cases built
    exact distinct
  | cons statement statements ih =>
    simp only [List.foldlM_cons, Option.bind_eq_bind, Option.bind_eq_some_iff] at built
    obtain ⟨middle, added, built⟩ := built
    exact ih (Draft.distinct_add? distinct added) built

/-- The table of a document has no key twice. -/
theorem Table.keys_nodup {text : String} {table : Table} (read : ofText? text = some table) :
    (table.map Prod.fst).Nodup := by
  simp only [ofText?, ofStatements?, Option.bind_eq_bind, Option.bind_eq_some_iff,
    Option.map_eq_some_iff] at read
  obtain ⟨statements, _, draft, built, rfl⟩ := read
  have empty : Node.Distinct ({} : Draft).entries := List.nodup_nil
  have distinct : Node.Distinct draft.entries := Draft.distinct_foldlM empty built
  rw [Node.keys_toTable]
  exact distinct

end StagedBuild.Toml
