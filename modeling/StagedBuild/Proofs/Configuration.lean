import StagedBuild.Proofs.DocumentKeys
import StagedBuild.Proofs.FieldOrder
import StagedBuild.Proofs.Quoting

/-!
# Writing and loading configurations

A configuration file is a document that gives strings to different keys. A codec that reads what it
writes so (`Codec.Lawful`) gives back every configuration that is written with it
(`parseWith_write`). The codec of TOML gives each key a line, and such a document is read as the
table of these strings, whatever the strings (`Table.ofText?_lines`); so it is lawful
(`Codec.lawful_toml`), and a configuration survives its file (`parse_toToml`).
-/

namespace StagedBuild.Toml

/-- A quoted string starts with a quote. -/
theorem Quoted.write_eq_cons (text : List Char) :
    ∃ quote rest, Quoted.write text = quote :: rest ∧ (quote = '"' ∨ quote = '\'') := by
  rw [Quoted.write]
  split
  · exact ⟨_, _, rfl, .inl rfl⟩
  · exact ⟨_, _, rfl, .inr rfl⟩
  · exact ⟨_, _, rfl, .inl rfl⟩
  · exact ⟨_, _, rfl, .inr rfl⟩

namespace Statement

/-- A sign that ends a bare key does not stand in one. -/
theorem ne_of_isBareChar {c sign : Char} (bare : isBareChar c = true)
    (other : isBareChar sign = false) : c ≠ sign := by
  rintro rfl
  rw [bare] at other
  cases other

/-- The key can be written without quotes. -/
structure IsBare (key : String) : Prop where
  nonempty : key.toList ≠ []
  bare : ∀ c ∈ key.toList, isBareChar c = true

theorem IsBare.eq_cons {key : String} (bare : IsBare key) :
    ∃ c rest, key.toList = c :: rest ∧ isBareChar c = true := by
  obtain ⟨nonempty, bare⟩ := bare
  cases eq : key.toList with
  | nil => exact absurd eq nonempty
  | cons c rest => exact ⟨c, rest, rfl, bare c (eq ▸ List.mem_cons_self)⟩

/-- A bare key ends at the blank behind it. -/
theorem keyPart?_bare {key : String} (bare : IsBare key) (rest : List Char) :
    keyPart? (key.toList ++ ' ' :: rest) = some (key, ' ' :: rest) := by
  have unquoted : Quoted.singleLine? (key.toList ++ ' ' :: rest) = none := by
    obtain ⟨c, more, eq, first⟩ := bare.eq_cons
    rw [eq, List.cons_append, Quoted.singleLine?]
    · exact fun _ h => ne_of_isBareChar first (by decide) (List.cons.inj h).1
    · exact fun _ h => ne_of_isBareChar first (by decide) (List.cons.inj h).1
  have word : (key.toList ++ ' ' :: rest).takeWhile isBareChar = key.toList := by
    rw [List.takeWhile_append_of_pos bare.bare, List.takeWhile_cons_of_neg (by decide),
      List.append_nil]
  have after : (key.toList ++ ' ' :: rest).dropWhile isBareChar = ' ' :: rest := by
    rw [List.dropWhile_append_of_pos bare.bare, List.dropWhile_cons_of_neg (by decide)]
  rw [keyPart?, unquoted]
  dsimp only
  rw [word, after, if_neg (by simpa using bare.nonempty), String.ofList_toList]

theorem key?_bare {key : String} (bare : IsBare key) (rest : List Char) :
    key? (key.toList ++ ' ' :: '=' :: rest) = some ([key], '=' :: rest) := by
  rw [key?, maxDepth, keyParts?, keyPart?_bare bare]
  rfl

/-- A quoted string is read as a value, up to the end of its line. -/
theorem value?_write (depth : Nat) (text rest : List Char) :
    value? depth (Quoted.write text ++ '\n' :: rest) =
      some (.string (String.ofList text), '\n' :: rest) := by
  have read : Quoted.string? (Quoted.write text ++ '\n' :: rest) = some (text, '\n' :: rest) :=
    Quoted.string?_write text (Quoted.not_prefix_cons (by decide))
      (Quoted.not_prefix_cons (by decide))
  rw [value?.eq_def]
  simp only [read]

/-- The line that gives a string to a key, without its newline. -/
def line (key value : String) : List Char :=
  key.toList ++ ' ' :: '=' :: ' ' :: Quoted.write value.toList

theorem dropBlanks_write (text rest : List Char) :
    dropBlanks (' ' :: (Quoted.write text ++ rest)) = Quoted.write text ++ rest := by
  obtain ⟨quote, more, eq, kind⟩ := Quoted.write_eq_cons text
  rw [dropBlanks, List.dropWhile_cons_of_pos (by decide), eq, List.cons_append,
    List.dropWhile_cons_of_neg]
  rcases kind with rfl | rfl <;> decide

theorem line_eq_cons {key : String} (bare : IsBare key) (value : String) :
    ∃ c rest, line key value = c :: rest ∧ isBareChar c = true := by
  obtain ⟨c, rest, eq, first⟩ := bare.eq_cons
  exact ⟨c, _, by rw [line, eq, List.cons_append], first⟩

/-- The line of a bare key is read as a statement, up to its newline. -/
theorem statement?_line {key : String} (bare : IsBare key) (value : String) (rest : List Char) :
    statement? (line key value ++ '\n' :: rest) =
      some (.assign [key] (.string value), '\n' :: rest) := by
  have atSign : ∀ text, dropBlanks ('=' :: text) = '=' :: text := fun _ => rfl
  have assigned : assignment? (some ∘ dropBlanks) (value? maxDepth)
      (line key value ++ '\n' :: rest) = some (([key], .string value), '\n' :: rest) := by
    rw [line, assignment?, List.append_assoc]
    simp only [List.cons_append, key?_bare bare, Option.bind_eq_bind, Option.bind_some,
      Function.comp_apply, atSign, dropBlanks_write, value?_write, String.ofList_toList]
    rfl
  obtain ⟨c, more, eq, first⟩ := line_eq_cons bare value
  rw [eq, List.cons_append] at assigned ⊢
  have noBracket : c ≠ '[' := ne_of_isBareChar first (by decide)
  rw [statement?, assigned]
  · rfl
  · exact fun _ h => noBracket (List.cons.inj h).1
  · exact fun _ h => noBracket (List.cons.inj h).1

theorem gap?_bare {c : Char} (bare : isBareChar c = true) (text : List Char) :
    gap? false (c :: text) = some (c :: text) := by
  rw [gap?]
  · exact fun h => nomatch h
  all_goals exact fun _ h => ne_of_isBareChar bare (by decide) (List.cons.inj h).1

theorem statements?_newline (count : Nat) (text : List Char) :
    statements? count ('\n' :: text) = statements? count text := by
  cases count with
  | zero => rfl
  | succ count => rw [statements?, statements?, gap?]

/-- Lines that give strings to keys are read as what they say. -/
theorem statements?_lines {fields : List (String × String)}
    (bare : ∀ field ∈ fields, IsBare field.1) {count : Nat} (enough : fields.length < count) :
    statements? count (fields.flatMap fun field => line field.1 field.2 ++ ['\n']) =
      some (fields.map fun field => .assign [field.1] (.string field.2)) := by
  induction fields generalizing count with
  | nil =>
    cases count with
    | zero => cases enough
    | succ count => rfl
  | cons field fields ih =>
    cases count with
    | zero => cases enough
    | succ count =>
      have rest := ih (fun other member => bare other (List.mem_cons_of_mem field member))
        (Nat.lt_of_succ_lt_succ enough)
      obtain ⟨key, value⟩ := field
      have first := bare (key, value) List.mem_cons_self
      rw [List.flatMap_cons, List.append_assoc, List.singleton_append]
      generalize fields.flatMap (fun field => line field.1 field.2 ++ ['\n']) = later at rest ⊢
      have read := statement?_line first value later
      obtain ⟨c, more, eq, plain⟩ := line_eq_cons first value
      rw [eq, List.cons_append] at read ⊢
      have atEnd : dropBlanks ('\n' :: later) = '\n' :: later := rfl
      -- What is left of the line is its newline, which is also the gap before the next one.
      simp only [statements?, gap?_bare plain, read, atEnd, statements?_newline, rest, atLineEnd,
        Option.bind_eq_bind, Option.bind_some, if_true]
      rfl

end Statement

/-- Strings as the content of keys. -/
def entriesOf (fields : List (String × String)) : Node.Entries :=
  fields.map fun field => (field.1, .value (.string field.2))

/-- A key that is new goes to the end. -/
theorem Node.assign_new {entries : Node.Entries} {key : String} (value : Value)
    (new : key ∉ entries.map Prod.fst) :
    Node.assign value [key] entries = some (entries ++ [(key, .value value)]) := by
  rw [Node.assign]
  induction entries with
  | nil => rfl
  | cons entry entries ih =>
    obtain ⟨other, node⟩ := entry
    rw [List.map_cons, List.mem_cons, not_or] at new
    rw [Node.update, if_neg (Ne.symm new.1), ih new.2]
    rfl

/-- Statements that give strings to different new keys add them one after another. -/
theorem foldlM_add?_assign {fields : List (String × String)} {entries : Node.Entries}
    (distinct : (entries.map Prod.fst ++ fields.map Prod.fst).Nodup) :
    (fields.map fun field => Statement.assign [field.1] (.string field.2)).foldlM Draft.add?
      ⟨entries, []⟩ = some ⟨entries ++ entriesOf fields, []⟩ := by
  induction fields generalizing entries with
  | nil => simp [entriesOf]
  | cons field fields ih =>
    obtain ⟨key, value⟩ := field
    have new : key ∉ entries.map Prod.fst := by
      intro member
      rw [List.map_cons, List.nodup_append] at distinct
      exact distinct.2.2 key member key List.mem_cons_self rfl
    have added : Draft.add? ⟨entries, []⟩ (.assign [key] (.string value)) =
        some ⟨entries ++ [(key, .value (.string value))], []⟩ := by
      rw [Draft.add?, Node.inside, Node.assign_new _ new]
      rfl
    rw [List.map_cons, List.foldlM_cons, added]
    refine (ih ?_).trans ?_
    · simpa using distinct
    · simp [entriesOf]

theorem toTable_entriesOf (fields : List (String × String)) :
    Node.toTable (entriesOf fields) = fields.map fun field => (field.1, .string field.2) := by
  induction fields with
  | nil => rfl
  | cons field fields ih =>
    rw [entriesOf, List.map_cons, Node.toTable, ← entriesOf, ih, Node.toValue, List.map_cons]

theorem Table.ofStatements?_assign {fields : List (String × String)}
    (distinct : (fields.map Prod.fst).Nodup) :
    Table.ofStatements? (fields.map fun field => .assign [field.1] (.string field.2)) =
      some (fields.map fun field => (field.1, .string field.2)) := by
  have fresh : (([] : Node.Entries).map Prod.fst ++ fields.map Prod.fst).Nodup := distinct
  rw [Table.ofStatements?, foldlM_add?_assign fresh, List.nil_append, Option.map_some,
    toTable_entriesOf]

theorem withoutMark_lines {fields : List (String × String)}
    (bare : ∀ field ∈ fields, Statement.IsBare field.1) :
    withoutMark (fields.flatMap fun field => Statement.line field.1 field.2 ++ ['\n']) =
      fields.flatMap fun field => Statement.line field.1 field.2 ++ ['\n'] := by
  cases fields with
  | nil => rfl
  | cons field fields =>
    obtain ⟨c, rest, eq, plain⟩ := Statement.line_eq_cons (bare field List.mem_cons_self) field.2
    have noMark : c ≠ Char.ofNat 0xFEFF := Statement.ne_of_isBareChar plain (by decide)
    rw [List.flatMap_cons, eq, List.cons_append, List.cons_append, withoutMark, if_neg noMark]

theorem length_le_lines (fields : List (String × String)) : fields.length ≤
    (fields.flatMap fun field => Statement.line field.1 field.2 ++ ['\n']).length := by
  induction fields with
  | nil => exact Nat.le_refl 0
  | cons field fields ih =>
    simp only [List.flatMap_cons, List.length_append, List.length_cons]
    omega

/-- A document whose lines give strings to different keys is the table of these strings. -/
theorem Table.ofText?_lines {fields : List (String × String)}
    (bare : ∀ field ∈ fields, Statement.IsBare field.1)
    (distinct : (fields.map Prod.fst).Nodup) {text : String}
    (lines : text.toList = fields.flatMap fun field => Statement.line field.1 field.2 ++ ['\n']) :
    Table.ofText? text = some (fields.map fun field => (field.1, .string field.2)) := by
  have read := Statement.statements?_lines bare (Nat.lt_succ_of_le (length_le_lines fields))
  simp only [Table.ofText?, lines, withoutMark_lines bare, read, Option.bind_eq_bind,
    Option.bind_some]
  exact Table.ofStatements?_assign distinct

theorem toList_fieldLine (key value : String) :
    (fieldLine key value).toList = Statement.line key value ++ ['\n'] := by
  have equals : " = ".toList = [' ', '=', ' '] := rfl
  have newline : "\n".toList = ['\n'] := rfl
  simp [fieldLine, Statement.line, String.toList_append, equals, newline]

theorem toList_write (fields : List (String × String)) :
    (Codec.toml.write fields).toList =
      fields.flatMap fun field => Statement.line field.1 field.2 ++ ['\n'] := by
  simp only [Codec.toml, String.toList_join, List.flatMap_map, toList_fieldLine]

/-- What is written with a codec can be read with it. The keys may come in another order, as they do
from a reader that sorts them. -/
structure Codec.Lawful (codec : Codec) : Prop where
  /-- Strings that are given to different bare keys are read as they were written. -/
  reads : ∀ fields : List (String × String), (∀ field ∈ fields, Statement.IsBare field.1) →
    (fields.map Prod.fst).Nodup → ∃ table, codec.read? (codec.write fields) = some table ∧
      table.Perm (fields.map fun field => (field.1, .string field.2))
  /-- No table has a key twice. -/
  distinct : ∀ text table, codec.read? text = some table → (table.map Prod.fst).Nodup

theorem Codec.lawful_toml : Codec.toml.Lawful where
  reads fields bare distinct := ⟨_, Table.ofText?_lines bare distinct (toList_write fields), .refl _⟩
  distinct _ _ read := Table.keys_nodup read

end StagedBuild.Toml

namespace StagedBuild.ToolchainConfig

open Toml

theorem isBare_of_mem_fields (config : ToolchainConfig) :
    ∀ field ∈ config.fields, Statement.IsBare field.1 := by
  have bare : ∀ key ∈ ["language", "compiler", "runtime"], Statement.IsBare key := by
    intro key member
    simp only [List.mem_cons, List.not_mem_nil, or_false] at member
    rcases member with rfl | rfl | rfl <;>
      exact ⟨by decide, List.all_eq_true.mp (by decide)⟩
  intro field member
  exact bare field.1 (List.mem_map_of_mem (f := Prod.fst) member)

theorem nodup_keys_fields (config : ToolchainConfig) : (config.fields.map Prod.fst).Nodup :=
  (by decide : ["language", "compiler", "runtime"].Nodup)

/-- The keys are looked at in another order than they are written in. -/
theorem sortedFields_lines (language compiler runtime : Value) :
    sortedFields [("language", language), ("compiler", compiler), ("runtime", runtime)] =
      [("compiler", compiler), ("language", language), ("runtime", runtime)] := by
  simp [sortedFields, List.mergeSort, List.MergeSort.Internal.splitInTwo]

theorem ofTable_fields (config : ToolchainConfig) :
    ofTable (config.fields.map fun field => (field.1, .string field.2)) = .ok config := by
  obtain ⟨language, compiler, runtime⟩ := config
  simp only [fields, List.map_cons, List.map_nil, ofTable, sortedFields_lines]
  cases language
  rfl

/-- What is written with a lawful codec is loaded with it. -/
theorem parseWith_write {codec : Codec} (lawful : codec.Lawful) (config : ToolchainConfig) :
    parseWith codec (codec.write config.fields) = .ok config := by
  obtain ⟨table, read, order⟩ :=
    lawful.reads config.fields config.isBare_of_mem_fields config.nodup_keys_fields
  have distinct := lawful.distinct _ _ read
  rw [parseWith, read, ← ofTable_fields config]
  exact (ofTable_eq distinct (order.map reading)).symm

/-- A configuration survives being written to a file and read back, whatever its paths. -/
theorem parse_toToml (config : ToolchainConfig) : parse config.toToml = .ok config :=
  parseWith_write Codec.lawful_toml config

end StagedBuild.ToolchainConfig
