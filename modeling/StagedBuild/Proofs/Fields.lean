import Mathlib.Data.List.Basic
import StagedBuild.Config

/-!
# The keys of a configuration, one at a time

What a key of a document does to a configuration is said apart from the code that does it: it takes
the configuration to another one (`Takes`), or it cannot stand there for some reason (`Offends`). A
key does one of the two and never both (`takes_iff`), and the code does the same (`setField_ok_iff`,
`setField_error_iff`).
-/

namespace StagedBuild.ToolchainConfig

open Toml

/-- The value names this language: by its name, or by a table whose one key is the name and holds
nothing. -/
inductive Names : Value → Target → Prop where
  | name : Names (.string "kotlin") .kotlin
  | emptyTable : Names (.table [("kotlin", .table [])]) .kotlin
  | emptyArray : Names (.table [("kotlin", .array [])]) .kotlin

/-- The value is this path. -/
def IsPath (value : Value) (path : String) : Prop :=
  value = .string path

/-- The value names no language, for this reason. -/
inductive NamesNone : Value → ConfigError → Prop where
  | name {name : String} (unknown : name ≠ "kotlin") :
    NamesNone (.string name) (.unknownVariant name)
  | variant {name : String} (unknown : name ≠ "kotlin") (held : Value) :
    NamesNone (.table [(name, held)]) (.unknownVariant name)
  | content {held : Value} (noTable : held ≠ .table []) (noArray : held ≠ .array []) :
    NamesNone (.table [("kotlin", held)]) .unusable
  | form {value : Value} (noString : ∀ name, value ≠ .string name)
      (noVariant : ∀ entry, value ≠ .table [entry]) : NamesNone value .unusable

/-- The value is no path, for this reason. -/
inductive NoPath : Value → ConfigError → Prop where
  | kind {value : Value} {found : String} (noString : ∀ text, value ≠ .string text)
      (described : typeText? value = some found) : NoPath value (.invalidType found)
  /-- A number that cannot be read. -/
  | number {value : Value} (undescribed : typeText? value = none) : NoPath value .unusable

/-- The key cannot stand in a configuration with this value, for this reason. -/
inductive Offends : String × Value → ConfigError → Prop where
  | key {key : String} (noLanguage : key ≠ "language") (noCompiler : key ≠ "compiler")
      (noRuntime : key ≠ "runtime") (value : Value) : Offends (key, value) (.unknownField key)
  | language {value : Value} {error : ConfigError} (wrong : NamesNone value error) :
    Offends ("language", value) error
  | compiler {value : Value} {error : ConfigError} (wrong : NoPath value error) :
    Offends ("compiler", value) error
  | runtime {value : Value} {error : ConfigError} (wrong : NoPath value error) :
    Offends ("runtime", value) error

/-- The key takes the configuration to this one. -/
inductive Takes (config : ToolchainConfig) : String × Value → ToolchainConfig → Prop where
  | language {value : Value} {language : Target} (named : Names value language) :
    Takes config ("language", value) { config with language }
  | compiler {value : Value} {compiler : String} (isPath : IsPath value compiler) :
    Takes config ("compiler", value) { config with compiler }
  | runtime {value : Value} {runtime : String} (isPath : IsPath value runtime) :
    Takes config ("runtime", value) { config with runtime }

theorem languageOf_of_names {value : Value} {language : Target} (named : Names value language) :
    languageOf value = .ok language := by
  cases named <;> rfl

theorem languageNamed_of_ne {name : String} (unknown : name ≠ "kotlin") :
    languageNamed name = .error (.unknownVariant name) :=
  if_neg unknown

theorem languageOf_of_namesNone {value : Value} {error : ConfigError}
    (wrong : NamesNone value error) : languageOf value = .error error := by
  cases wrong with
  | name unknown => exact languageNamed_of_ne unknown
  | variant unknown held =>
    rw [languageOf, languageNamed_of_ne unknown]
    rfl
  | @content held noTable noArray =>
    have full : isEmptyValue held = false := by
      unfold isEmptyValue
      split
      · exact absurd rfl noArray
      · exact absurd rfl noTable
      · rfl
    have named : languageNamed "kotlin" = .ok .kotlin := rfl
    rw [languageOf, named]
    simp [full, bind, Except.bind]
  | form noString noVariant =>
    unfold languageOf
    split
    · exact absurd rfl (noString _)
    · exact absurd rfl (noVariant _)
    · rfl

/-- A value names a language or it names none. -/
theorem names_or_namesNone (value : Value) :
    (∃ language, Names value language) ∨ ∃ error, NamesNone value error := by
  by_cases isString : ∃ name, value = .string name
  · obtain ⟨name, rfl⟩ := isString
    by_cases known : name = "kotlin"
    · subst known
      exact .inl ⟨_, .name⟩
    · exact .inr ⟨_, .name known⟩
  by_cases isVariant : ∃ entry, value = .table [entry]
  · obtain ⟨⟨name, held⟩, rfl⟩ := isVariant
    by_cases known : name = "kotlin"
    · subst known
      by_cases noTable : held = .table []
      · subst noTable
        exact .inl ⟨_, .emptyTable⟩
      by_cases noArray : held = .array []
      · subst noArray
        exact .inl ⟨_, .emptyArray⟩
      exact .inr ⟨_, .content noTable noArray⟩
    · exact .inr ⟨_, .variant known held⟩
  exact .inr ⟨_, .form (not_exists.mp isString) (not_exists.mp isVariant)⟩

theorem pathOf_of_noPath {value : Value} {error : ConfigError} (wrong : NoPath value error) :
    pathOf value = .error error := by
  cases wrong with
  | kind noString described =>
    unfold pathOf
    split
    · exact absurd rfl (noString _)
    · rw [described]
  | number undescribed =>
    unfold pathOf
    split
    · simp [typeText?] at undescribed
    · rw [undescribed]

/-- A value is a path or it is none. -/
theorem isPath_or_noPath (value : Value) :
    (∃ path, IsPath value path) ∨ ∃ error, NoPath value error := by
  by_cases isString : ∃ path, IsPath value path
  · exact .inl isString
  · cases described : typeText? value with
    | some found => exact .inr ⟨_, .kind (not_exists.mp isString) described⟩
    | none => exact .inr ⟨_, .number described⟩

theorem setField_of_takes {config next : ToolchainConfig} {field : String × Value}
    (takes : Takes config field next) : setField config field = .ok next := by
  cases takes with
  | language named =>
    rw [setField, if_pos rfl, languageOf_of_names named]
    rfl
  | compiler isPath =>
    cases isPath
    rfl
  | runtime isPath =>
    cases isPath
    rfl

theorem setField_of_offends (config : ToolchainConfig) {field : String × Value}
    {error : ConfigError} (offends : Offends field error) :
    setField config field = .error error := by
  cases offends with
  | key noLanguage noCompiler noRuntime value =>
    rw [setField, if_neg noLanguage, if_neg noCompiler, if_neg noRuntime]
  | language wrong =>
    rw [setField, if_pos rfl, languageOf_of_namesNone wrong]
    rfl
  | compiler wrong =>
    rw [setField, if_neg (by decide : "compiler" ≠ "language"), if_pos rfl,
      pathOf_of_noPath wrong]
    rfl
  | runtime wrong =>
    rw [setField, if_neg (by decide : "runtime" ≠ "language"),
      if_neg (by decide : "runtime" ≠ "compiler"), if_pos rfl, pathOf_of_noPath wrong]
    rfl

/-- A key goes into the configuration or it offends. -/
theorem takes_or_offends (config : ToolchainConfig) (field : String × Value) :
    (∃ next, Takes config field next) ∨ ∃ error, Offends field error := by
  obtain ⟨key, value⟩ := field
  by_cases isLanguage : key = "language"
  · subst isLanguage
    rcases names_or_namesNone value with ⟨language, named⟩ | ⟨error, wrong⟩
    · exact .inl ⟨_, .language named⟩
    · exact .inr ⟨error, .language wrong⟩
  by_cases isCompiler : key = "compiler"
  · subst isCompiler
    rcases isPath_or_noPath value with ⟨path, isPath⟩ | ⟨error, wrong⟩
    · exact .inl ⟨_, .compiler isPath⟩
    · exact .inr ⟨error, .compiler wrong⟩
  by_cases isRuntime : key = "runtime"
  · subst isRuntime
    rcases isPath_or_noPath value with ⟨path, isPath⟩ | ⟨error, wrong⟩
    · exact .inl ⟨_, .runtime isPath⟩
    · exact .inr ⟨error, .runtime wrong⟩
  exact .inr ⟨_, .key isLanguage isCompiler isRuntime value⟩

theorem setField_ok_iff {config next : ToolchainConfig} {field : String × Value} :
    setField config field = .ok next ↔ Takes config field next := by
  refine ⟨fun set => ?_, setField_of_takes⟩
  rcases takes_or_offends config field with ⟨other, takes⟩ | ⟨error, offends⟩
  · rw [setField_of_takes takes] at set
    cases set
    exact takes
  · rw [setField_of_offends config offends] at set
    cases set

theorem setField_error_iff {config : ToolchainConfig} {field : String × Value}
    {error : ConfigError} : setField config field = .error error ↔ Offends field error := by
  refine ⟨fun refused => ?_, setField_of_offends config⟩
  rcases takes_or_offends config field with ⟨next, takes⟩ | ⟨other, offends⟩
  · rw [setField_of_takes takes] at refused
    cases refused
  · rw [setField_of_offends config offends] at refused
    cases refused
    exact offends

theorem takes_iff (config : ToolchainConfig) (field : String × Value) :
    (∃ next, Takes config field next) ↔ ∀ error, ¬Offends field error := by
  constructor
  · rintro ⟨next, takes⟩ error offends
    have taken := setField_of_takes takes
    rw [setField_of_offends config offends] at taken
    cases taken
  · intro fits
    exact (takes_or_offends config field).resolve_right (not_exists.mpr fits)

end StagedBuild.ToolchainConfig
