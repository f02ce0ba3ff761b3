import StagedBuild.Proofs.ByteOrder
import StagedBuild.Proofs.Configuration
import StagedBuild.Proofs.Fields

/-!
# Configurations in any order of keys

What a configuration file means does not depend on the order in which its keys are written
(`parse_any_order`). A document is accepted exactly if each of its keys is (`Accepted`), and the
configuration then has the values of the document and the defaults for what is absent (`Overrides`);
otherwise the error is that of the offending key whose bytes are smallest (`Offends`). That is so
for every reader that gives no table with a key twice (`toldByKeys`).

* `foldlM_ok`, `foldlM_error`: what a list of keys does to a configuration, one after another.
* `ofTable_ok`, `ofTable_error`: the same for a table, whose keys are looked at in another order.
* `Toml.Value.Reordered`: the same value with the keys of its tables written in another order.
* `readings_perm`: what is read off the keys of a document is permuted when it is reordered.
-/

namespace StagedBuild

/-- The same value, with the keys of its tables and of the tables inside it in another order. -/
inductive Toml.Value.Reordered : Value → Value → Prop where
  | refl (value : Value) : Reordered value value
  | keys {entries entries' : Table} (order : entries.Perm entries') :
    Reordered (.table entries) (.table entries')
  | entry {before after : Table} {key : String} {value value' : Value}
      (inside : Reordered value value') :
    Reordered (.table (before ++ (key, value) :: after)) (.table (before ++ (key, value') :: after))
  | item {before after : List Value} {value value' : Value} (inside : Reordered value value') :
    Reordered (.array (before ++ value :: after)) (.array (before ++ value' :: after))
  | trans {value value' value'' : Value} (first : Reordered value value')
      (second : Reordered value' value'') : Reordered value value''

namespace ToolchainConfig

open Toml

/-! ### The keys of a table -/

/-- Each key is known and has a value of its kind. -/
structure Accepted (table : Table) : Prop where
  keys : ∀ field ∈ table, field.1 = "language" ∨ field.1 = "compiler" ∨ field.1 = "runtime"
  language : ∀ value, ("language", value) ∈ table → ∃ language, Names value language
  compiler : ∀ value, ("compiler", value) ∈ table → ∃ path, IsPath value path
  runtime : ∀ value, ("runtime", value) ∈ table → ∃ path, IsPath value path

/-- The key stands for this: for what its value does, or for the default if the table lacks it. -/
structure StandsFor {α : Type} (table : Table) (key : String) (means : Value → α → Prop)
    (default : α) (content : α) : Prop where
  present : ∀ value, (key, value) ∈ table → means value content
  absent : key ∉ table.map Prod.fst → content = default

/-- The configuration is the first one with the contents of the table put in its place. -/
structure Overrides (start : ToolchainConfig) (table : Table) (config : ToolchainConfig) :
    Prop where
  language : StandsFor table "language" Names start.language config.language
  compiler : StandsFor table "compiler" IsPath start.compiler config.compiler
  runtime : StandsFor table "runtime" IsPath start.runtime config.runtime

/-- A table is accepted if none of its keys offends. -/
theorem accepted_iff (table : Table) :
    Accepted table ↔ ∀ field ∈ table, ∀ error, ¬Offends field error := by
  constructor
  · rintro accepted ⟨key, value⟩ member
    refine (takes_iff {} _).mp ?_
    rcases accepted.keys _ member with rfl | rfl | rfl
    · obtain ⟨language, named⟩ := accepted.language value member
      exact ⟨_, .language named⟩
    · obtain ⟨path, isPath⟩ := accepted.compiler value member
      exact ⟨_, .compiler isPath⟩
    · obtain ⟨path, isPath⟩ := accepted.runtime value member
      exact ⟨_, .runtime isPath⟩
  · intro fits
    refine ⟨fun field member => ?_, fun value member => ?_, fun value member => ?_,
      fun value member => ?_⟩
    · by_contra unknown
      simp only [not_or] at unknown
      exact fits field member _ (.key unknown.1 unknown.2.1 unknown.2.2 field.2)
    · exact (names_or_namesNone value).resolve_right fun ⟨error, wrong⟩ =>
        fits _ member error (.language wrong)
    · exact (isPath_or_noPath value).resolve_right fun ⟨error, wrong⟩ =>
        fits _ member error (.compiler wrong)
    · exact (isPath_or_noPath value).resolve_right fun ⟨error, wrong⟩ =>
        fits _ member error (.runtime wrong)

section StandsFor

variable {α : Type} {table : Table} {key : String} {means : Value → α → Prop}
  {default content : α} {value : Value}

/-- A key that comes first stands for its value, if it does not come again. -/
theorem StandsFor.first {middle : α} (rest : StandsFor table key means middle content)
    (once : key ∉ table.map Prod.fst) (meaning : means value middle) :
    StandsFor ((key, value) :: table) key means default content := by
  have same : content = middle := rest.absent once
  constructor
  · intro other member
    rcases List.mem_cons.mp member with here | later
    · cases here
      exact same ▸ meaning
    · exact absurd (List.mem_map_of_mem later) once
  · intro missing
    exact absurd List.mem_cons_self missing

/-- A key in front of the others does not change what they stand for. -/
theorem StandsFor.skip {other : String} (rest : StandsFor table key means default content)
    (different : key ≠ other) : StandsFor ((other, value) :: table) key means default content := by
  constructor
  · intro held member
    rcases List.mem_cons.mp member with here | later
    · cases here
      exact absurd rfl different
    · exact rest.present held later
  · intro missing
    exact rest.absent fun member => missing (List.mem_cons_of_mem other member)

/-- What a key stands for does not depend on its place. -/
theorem StandsFor.of_perm {table' : Table} (standsFor : StandsFor table key means default content)
    (order : table.Perm table') : StandsFor table' key means default content := by
  constructor
  · exact fun value member => standsFor.present value (order.mem_iff.mpr member)
  · intro missing
    exact standsFor.absent fun member => missing ((order.map Prod.fst).mem_iff.mp member)

end StandsFor

theorem foldlM_cons_ok_iff {field : String × Value} {fields : Table}
    {start config : ToolchainConfig} :
    (field :: fields).foldlM setField start = .ok config ↔
      ∃ next, Takes start field next ∧ fields.foldlM setField next = .ok config := by
  simp only [List.foldlM_cons, ← setField_ok_iff]
  cases setField start field with
  | error error => exact ⟨nofun, nofun⟩
  | ok next => exact ⟨fun run => ⟨next, rfl, run⟩, fun ⟨_, set, run⟩ => Except.ok.inj set ▸ run⟩

theorem foldlM_cons_error_iff {field : String × Value} {fields : Table} {start : ToolchainConfig}
    {error : ConfigError} :
    (field :: fields).foldlM setField start = .error error ↔
      Offends field error ∨
        ∃ next, Takes start field next ∧ fields.foldlM setField next = .error error := by
  simp only [List.foldlM_cons, ← setField_ok_iff, ← @setField_error_iff start]
  cases setField start field with
  | error refusal => exact ⟨.inl, fun refused => refused.resolve_right nofun⟩
  | ok next =>
    refine ⟨fun run => .inr ⟨next, rfl, run⟩, fun refused => ?_⟩
    obtain ⟨_, set, run⟩ := refused.resolve_left nofun
    exact Except.ok.inj set ▸ run

/-- If a list of keys is taken, none of them offends. -/
theorem not_offends_of_foldlM_ok {fields : Table} {start config : ToolchainConfig}
    (run : fields.foldlM setField start = .ok config) :
    ∀ field ∈ fields, ∀ error, ¬Offends field error := by
  induction fields generalizing start with
  | nil => nofun
  | cons field fields ih =>
    obtain ⟨next, takes, run⟩ := foldlM_cons_ok_iff.mp run
    intro other member
    rcases List.mem_cons.mp member with rfl | later
    · exact (takes_iff start other).mp ⟨next, takes⟩
    · exact ih run other later

/-- Different keys that are all taken override what was there before them. -/
theorem foldlM_ok {fields : Table} {start config : ToolchainConfig}
    (distinct : (fields.map Prod.fst).Nodup) (run : fields.foldlM setField start = .ok config) :
    Overrides start fields config := by
  induction fields generalizing start with
  | nil =>
    cases run
    exact ⟨⟨nofun, fun _ => rfl⟩, ⟨nofun, fun _ => rfl⟩, ⟨nofun, fun _ => rfl⟩⟩
  | cons field fields ih =>
    obtain ⟨next, takes, run⟩ := foldlM_cons_ok_iff.mp run
    rw [List.map_cons, List.nodup_cons] at distinct
    have rest : Overrides next fields config := ih distinct.2 run
    -- The key does not come again, so what it set is what the keys behind it leave.
    cases takes with
    | language named =>
      exact ⟨rest.language.first distinct.1 named, rest.compiler.skip (by decide),
        rest.runtime.skip (by decide)⟩
    | compiler isPath =>
      exact ⟨rest.language.skip (by decide), rest.compiler.first distinct.1 isPath,
        rest.runtime.skip (by decide)⟩
    | runtime isPath =>
      exact ⟨rest.language.skip (by decide), rest.compiler.skip (by decide),
        rest.runtime.first distinct.1 isPath⟩

/-- The error is that of the first key that offends. -/
theorem foldlM_error {fields : Table} {start : ToolchainConfig} {error : ConfigError}
    (run : fields.foldlM setField start = .error error) :
    ∃ before field after, fields = before ++ field :: after ∧ Offends field error ∧
      ∀ other ∈ before, ∀ error', ¬Offends other error' := by
  induction fields generalizing start with
  | nil => cases run
  | cons field fields ih =>
    rcases foldlM_cons_error_iff.mp run with offends | ⟨next, takes, run⟩
    · exact ⟨[], field, fields, rfl, offends, nofun⟩
    · obtain ⟨before, offender, after, rfl, offends, fits⟩ := ih run
      refine ⟨field :: before, offender, after, rfl, offends, fun other member => ?_⟩
      rcases List.mem_cons.mp member with rfl | later
      · exact (takes_iff start other).mp ⟨next, takes⟩
      · exact fits other later

/-! ### The order of the keys -/

/-- A table that is taken is accepted and overrides the defaults. -/
theorem ofTable_ok {table : Table} {config : ToolchainConfig}
    (distinct : (table.map Prod.fst).Nodup) (taken : ofTable table = .ok config) :
    Accepted table ∧ Overrides {} table config := by
  have order := perm_sortedFields table
  have fits := not_offends_of_foldlM_ok taken
  have overrides := foldlM_ok ((order.map Prod.fst).nodup_iff.mpr distinct) taken
  constructor
  · exact (accepted_iff table).mpr fun field member => fits field (order.mem_iff.mpr member)
  · exact ⟨overrides.language.of_perm order, overrides.compiler.of_perm order,
      overrides.runtime.of_perm order⟩

/-- The error of a table is that of the offending key whose bytes are smallest. -/
theorem ofTable_error {table : Table} {error : ConfigError}
    (distinct : (table.map Prod.fst).Nodup) (refused : ofTable table = .error error) :
    ∃ field ∈ table, Offends field error ∧ ∀ other ∈ table, ∀ error', Offends other error' →
      other = field ∨ Text.Utf8.encode field.1 < Text.Utf8.encode other.1 := by
  obtain ⟨before, field, after, eq, offends, fits⟩ := foldlM_error refused
  have order := perm_sortedFields table
  have increasing := pairwise_sortedFields distinct
  rw [eq] at order increasing
  -- In the sorted keys all before the first offender fit, and all behind it are larger.
  have behind := (List.pairwise_cons.mp (List.pairwise_append.mp increasing).2.1).1
  refine ⟨field, order.mem_iff.mp (by simp), offends, fun other member error' offends' => ?_⟩
  have there : other ∈ before ++ field :: after := order.mem_iff.mpr member
  rcases List.mem_append.mp there with earlier | there
  · exact absurd offends' (fits other earlier error')
  · rcases List.mem_cons.mp there with same | later
    · exact .inl same
    · exact .inr ((Text.Utf8.encode_lt_iff _ _).mpr (behind other later))

/-! ### Reordered documents -/

theorem pathOf_reordered {value value' : Value} (reordered : Value.Reordered value value') :
    pathOf value' = pathOf value := by
  induction reordered with
  | refl => rfl
  | keys order => rfl
  | entry inside ih => rfl
  | item inside ih => rfl
  | trans _ _ first second => exact second.trans first

theorem isEmptyValue_reordered {value value' : Value} (reordered : Value.Reordered value value') :
    isEmptyValue value' = isEmptyValue value := by
  induction reordered with
  | refl => rfl
  | @keys entries entries' order =>
    have length := order.length_eq
    cases entries <;> cases entries'
    · rfl
    · exact absurd length.symm (Nat.succ_ne_zero _)
    · exact absurd length (Nat.succ_ne_zero _)
    · rfl
  | @entry before after key value value' inside ih => cases before <;> rfl
  | @item before after value value' inside ih => cases before <;> rfl
  | trans _ _ first second => exact second.trans first

/-- A table with several keys, or none, names no language. -/
theorem languageOf_of_length {entries : Table} (several : entries.length ≠ 1) :
    languageOf (.table entries) = .error .unusable := by
  unfold languageOf
  split
  · next same => cases same
  · next same =>
    cases same
    exact absurd rfl several
  · rfl

theorem languageOf_reordered {value value' : Value} (reordered : Value.Reordered value value') :
    languageOf value' = languageOf value := by
  induction reordered with
  | refl => rfl
  | @keys entries entries' order =>
    -- Only a table with one key can name a language, and one key has one order.
    by_cases single : entries.length = 1
    · obtain ⟨entry, rfl⟩ := List.length_eq_one_iff.mp single
      rw [List.singleton_perm.mp order]
    · rw [languageOf_of_length single, languageOf_of_length (order.length_eq ▸ single)]
  | @entry before after key value value' inside ih =>
    by_cases single : before.length + after.length = 0
    · have noneBefore : before = [] := List.length_eq_zero_iff.mp (by omega)
      have noneAfter : after = [] := List.length_eq_zero_iff.mp (by omega)
      subst noneBefore noneAfter
      rw [List.nil_append, List.nil_append, languageOf, languageOf, isEmptyValue_reordered inside]
    · rw [languageOf_of_length, languageOf_of_length] <;>
        rw [List.length_append, List.length_cons] <;> omega
  | item inside ih => rfl
  | trans _ _ first second => exact second.trans first

/-- What is read off the keys of a reordered table is the same, in another order. -/
theorem readings_perm {value value' : Value} (reordered : Value.Reordered value value') :
    ∀ table, value = .table table →
      ∃ table', value' = .table table' ∧ (table.map reading).Perm (table'.map reading) := by
  -- Stated over all values, since a reordering in several steps passes through others.
  induction reordered with
  | refl =>
    rintro table rfl
    exact ⟨table, rfl, .refl _⟩
  | keys order =>
    rintro table ⟨⟩
    exact ⟨_, rfl, order.map reading⟩
  | @entry before after key value value' inside ih =>
    rintro table ⟨⟩
    have same : reading (key, value') = reading (key, value) := by
      rw [reading, reading, languageOf_reordered inside, pathOf_reordered inside]
    refine ⟨_, rfl, ?_⟩
    rw [List.map_append, List.map_append, List.map_cons, List.map_cons, same]
  | item inside ih =>
    intro table same
    cases same
  | trans _ _ first second =>
    intro table same
    obtain ⟨middle, rfl, readings⟩ := first table same
    obtain ⟨table', rfl, readings'⟩ := second middle rfl
    exact ⟨table', rfl, readings.trans readings'⟩

/-- What a document means to a reader is told by its keys and values, in whatever order they
stand. -/
structure ToldByKeys (codec : Codec) (text : String) (table : Table) : Prop where
  accepted_iff : (∃ config, parseWith codec text = .ok config) ↔ Accepted table
  overrides : ∀ config, parseWith codec text = .ok config → Overrides {} table config
  /-- Otherwise the error is that of the offending key whose bytes are smallest. -/
  refused : ¬Accepted table → ∃ field ∈ table, ∃ error, Offends field error ∧
    parseWith codec text = .error error ∧ ∀ other ∈ table, ∀ error', Offends other error' →
      other = field ∨ Text.Utf8.encode field.1 < Text.Utf8.encode other.1
  reordered : ∀ text' table', codec.read? text' = some table' →
    Value.Reordered (.table table) (.table table') → parseWith codec text' = parseWith codec text

/-- This needs no more of a reader than that it gives no table with a key twice. -/
theorem toldByKeys {codec : Codec} (lawful : codec.Lawful) {text : String} {table : Table}
    (read : codec.read? text = some table) : ToldByKeys codec text table := by
  have distinct : (table.map Prod.fst).Nodup := lawful.distinct text table read
  have described : parseWith codec text = ofTable table := by rw [parseWith, read]
  refine ⟨⟨?_, ?_⟩, ?_, ?_, ?_⟩ <;> rw [described]
  · rintro ⟨config, taken⟩
    exact (ofTable_ok distinct taken).1
  · intro accepted
    cases outcome : ofTable table with
    | ok config => exact ⟨config, rfl⟩
    | error error =>
      obtain ⟨field, member, offends, _⟩ := ofTable_error distinct outcome
      exact absurd offends ((accepted_iff table).mp accepted field member error)
  · exact fun config taken => (ofTable_ok distinct taken).2
  · intro refused
    cases outcome : ofTable table with
    | ok config => exact absurd (ofTable_ok distinct outcome).1 refused
    | error error =>
      obtain ⟨field, member, offends, smallest⟩ := ofTable_error distinct outcome
      exact ⟨field, member, error, offends, rfl, smallest⟩
  · intro text' table' read' reordered
    obtain ⟨same, eq, readings⟩ := readings_perm reordered table rfl
    cases eq
    rw [parseWith, read']
    exact ofTable_eq distinct readings

/-- A document is accepted exactly if each of its keys is, and the configuration has what the
document gives and the defaults for the rest. Otherwise the error is that of the offending key whose
bytes are smallest. A document with the same keys and values in another order gives the same. -/
theorem parse_any_order {text : String} {table : Table} (read : Table.ofText? text = some table) :
    ((∃ config, parse text = .ok config) ↔ Accepted table) ∧
    (∀ config, parse text = .ok config → Overrides {} table config) ∧
    (¬Accepted table → ∃ field ∈ table, ∃ error, Offends field error ∧ parse text = .error error ∧
      ∀ other ∈ table, ∀ error', Offends other error' →
        other = field ∨ Text.Utf8.encode field.1 < Text.Utf8.encode other.1) ∧
    ∀ text' table', Table.ofText? text' = some table' →
      Value.Reordered (.table table) (.table table') → parse text' = parse text := by
  have told : ToldByKeys .toml text table := toldByKeys Codec.lawful_toml read
  exact ⟨told.accepted_iff, told.overrides, told.refused, told.reordered⟩

/-- Of two keys that offend, the one that is reported need not be written first. -/
theorem parse_output_linker :
    parse "output = \"bin\"\nlinker = \"ld\"\n" = .error (.unknownField "linker") ∧
      parse "linker = \"ld\"\noutput = \"bin\"\n" = .error (.unknownField "linker") := by
  have bare : ∀ field ∈ [("output", "bin"), ("linker", "ld")], Statement.IsBare field.1 := by
    intro field member
    simp only [List.mem_cons, List.not_mem_nil, or_false] at member
    rcases member with rfl | rfl <;> exact ⟨by decide, List.all_eq_true.mp (by decide)⟩
  have bare' : ∀ field ∈ [("linker", "ld"), ("output", "bin")], Statement.IsBare field.1 :=
    fun field member => bare field ((List.Perm.swap ..).mem_iff.mp member)
  have read : Table.ofText? "output = \"bin\"\nlinker = \"ld\"\n" =
      some [("output", .string "bin"), ("linker", .string "ld")] :=
    Table.ofText?_lines bare (by decide) (by decide +kernel)
  have read' : Table.ofText? "linker = \"ld\"\noutput = \"bin\"\n" =
      some [("linker", .string "ld"), ("output", .string "bin")] :=
    Table.ofText?_lines bare' (by decide) (by decide +kernel)
  obtain ⟨_, _, refused, reordered⟩ := parse_any_order read
  have offends : Offends ("linker", .string "ld") (.unknownField "linker") :=
    .key (by decide) (by decide) (by decide) _
  obtain ⟨field, member, error, offends', outcome, smallest⟩ := refused fun accepted =>
    (accepted_iff _).mp accepted _ (by simp) _ offends
  have first : field = ("linker", .string "ld") := by
    simp only [List.mem_cons, List.not_mem_nil, or_false] at member
    refine member.resolve_left fun written => ?_
    rcases smallest _ (by simp) _ offends with same | less
    · simp [written] at same
    · rw [written, Text.Utf8.encode_lt_iff] at less
      exact absurd less (by decide)
  subst first
  have same : ConfigError.unknownField "linker" = error :=
    Except.error.inj ((setField_of_offends {} offends).symm.trans (setField_of_offends {} offends'))
  rw [reordered _ _ read' (.keys (.swap ..)), outcome, same]
  exact ⟨rfl, rfl⟩

end ToolchainConfig

end StagedBuild
