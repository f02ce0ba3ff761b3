import Mathlib.Data.List.Basic
import Mathlib.Data.List.Induction
import StagedBuild.Pipeline.Setting
import StagedBuild.Proofs.Employing

/-!
# What a pipeline is equipped with

A pipeline is set up by replacing its parts, in any order and any number of times. Each part is in
the end what was set last for it, or what it was at the start, and the other parts do not matter to
it (`setAll_last_wins`). The bridge is set as a whole or by its halves, so its two halves are parts
of their own.

* `Setting.value?`: what a setting sets for a part. `get_set` says all that one setting does.
* `lastSet?`: what settings set last for a part. `get_setAll` says it of the whole run.
* `Setting.Apart`: settings that have no part in common. They commute, in any place
  (`lastSet?_swap`).
-/

namespace StagedBuild.Pipeline

variable {δ τ : Type}

/-- What of a pipeline can be set. -/
inductive Part where
  | fileSystem
  /-- The runner of the tools. -/
  | runner
  /-- The tools that are run. -/
  | tools
  | log
  deriving DecidableEq, Repr

/-- What stands in a part. -/
abbrev Part.Value (δ τ : Type) : Part → Type
  | .fileSystem => FileSystem (History δ τ)
  | .runner => Toolchain (History δ τ)
  | .tools => ToolchainConfig
  | .log => Log

/-- What stands in a part of the pipeline. -/
def get (pipeline : Pipeline δ τ) : (part : Part) → part.Value δ τ
  | .fileSystem => pipeline.fileSystem
  | .runner => pipeline.bridge.toolchain
  | .tools => pipeline.bridge.config
  | .log => pipeline.log

/-- What the setting sets for a part, if it sets it. -/
def Setting.value? : Setting δ τ → (part : Part) → Option (part.Value δ τ)
  | .fileSystem given, .fileSystem => some given
  | .toolchain given, .runner => some given
  | .bridge given, .runner => some given.toolchain
  | .config given, .tools => some given
  | .bridge given, .tools => some given.config
  | .log given, .log => some given
  | .logProgress enabled, .log => some (Log.ofProgress enabled)
  | _, _ => none

/-- No part is set by both. -/
def Setting.Apart (one other : Setting δ τ) : Prop :=
  ∀ part, one.value? part = none ∨ other.value? part = none

/-- What is set last for a part, if it is set at all. -/
def lastSet? (settings : List (Setting δ τ)) (part : Part) : Option (part.Value δ τ) :=
  (settings.filterMap fun setting => setting.value? part).getLast?

/-- The last setting counts for a part if it sets it. -/
theorem lastSet?_concat (settings : List (Setting δ τ)) (setting : Setting δ τ) (part : Part) :
    lastSet? (settings ++ [setting]) part = (setting.value? part).or (lastSet? settings part) := by
  unfold lastSet?
  rw [List.filterMap_append, List.filterMap_cons]
  cases setting.value? part <;> simp

/-- A pipeline is its stages and its parts. -/
theorem ext_parts {one other : Pipeline δ τ} (stages : one.stages = other.stages)
    (parts : ∀ part, one.get part = other.get part) : one = other := by
  obtain ⟨work, fileSystem, ⟨runner, tools⟩, log⟩ := one
  obtain ⟨work', fileSystem', ⟨runner', tools'⟩, log'⟩ := other
  obtain rfl : work = work' := stages
  obtain rfl : fileSystem = fileSystem' := parts .fileSystem
  obtain rfl : runner = runner' := parts .runner
  obtain rfl : tools = tools' := parts .tools
  obtain rfl : log = log' := parts .log
  rfl

section

variable (pipeline : Pipeline δ τ)

theorem stages_set (setting : Setting δ τ) : (pipeline.set setting).stages = pipeline.stages := by
  cases setting <;> rfl

/-- One setting: a part that it sets gets the value, and every other part stays. -/
theorem get_set (setting : Setting δ τ) (part : Part) :
    (pipeline.set setting).get part = (setting.value? part).getD (pipeline.get part) := by
  cases setting <;> cases part <;> rfl

theorem setAll_concat (settings : List (Setting δ τ)) (setting : Setting δ τ) :
    pipeline.setAll (settings ++ [setting]) = (pipeline.setAll settings).set setting := by
  rw [setAll, List.foldl_append]
  rfl

/-- No setting changes the stages. -/
theorem stages_setAll (settings : List (Setting δ τ)) :
    (pipeline.setAll settings).stages = pipeline.stages := by
  induction settings using List.reverseRecOn with
  | nil => rfl
  | append_singleton settings setting ih => rw [setAll_concat, stages_set, ih]

/-- All settings: a part has what was set last for it. -/
theorem get_setAll (settings : List (Setting δ τ)) (part : Part) :
    (pipeline.setAll settings).get part = (lastSet? settings part).getD (pipeline.get part) := by
  induction settings using List.reverseRecOn with
  | nil => rfl
  | append_singleton settings setting ih =>
    rw [setAll_concat, get_set, ih, lastSet?_concat, Option.getD_or]

/-- Settings that set the same last make the same pipeline. -/
theorem setAll_congr {settings others : List (Setting δ τ)}
    (same : ∀ part, lastSet? others part = lastSet? settings part) :
    pipeline.setAll others = pipeline.setAll settings := by
  refine ext_parts ?_ fun part => ?_
  · rw [stages_setAll, stages_setAll]
  · rw [get_setAll, get_setAll, same]

end

/-- Of settings that have no part in common, one side or the other leaves a part alone. -/
theorem unset_of_apart {one other : List (Setting δ τ)}
    (apart : ∀ first ∈ one, ∀ second ∈ other, first.Apart second) (part : Part) :
    (one.filterMap fun setting => setting.value? part) = [] ∨
      (other.filterMap fun setting => setting.value? part) = [] := by
  simp only [List.filterMap_eq_nil_iff]
  by_cases leaves : ∀ first ∈ one, first.value? part = none
  · exact .inl leaves
  · obtain ⟨first, member, sets⟩ : ∃ first ∈ one, first.value? part ≠ none := by
      simpa only [not_forall, exists_prop] using leaves
    exact .inr fun second member' => (apart first member second member' part).resolve_left sets

/-- Such settings can change places, wherever they stand. -/
theorem lastSet?_swap {one other : List (Setting δ τ)}
    (apart : ∀ first ∈ one, ∀ second ∈ other, first.Apart second)
    (before after : List (Setting δ τ)) (part : Part) :
    lastSet? (before ++ other ++ one ++ after) part =
      lastSet? (before ++ one ++ other ++ after) part := by
  unfold lastSet?
  obtain unset | unset := unset_of_apart apart part
  · simp only [List.filterMap_append, unset, List.append_nil]
  · simp only [List.filterMap_append, unset, List.append_nil]

/-- A new pipeline after any settings. Each part is what was set last for it, or what it was at the
start, and the calls of every operation go by these parts. What was set before does not matter:
settings that set the same last make a pipeline that runs alike, and settings that have no part in
common can change places. -/
theorem setAll_last_wins (stages : Stages δ τ) (fileSystem : FileSystem (History δ τ))
    (toolchain : Toolchain (History δ τ)) (settings : List (Setting δ τ)) :
    let start := new stages fileSystem toolchain
    let built := start.setAll settings
    built.stages = stages ∧
    built.fileSystem = (lastSet? settings .fileSystem).getD fileSystem ∧
    built.bridge.toolchain = (lastSet? settings .runner).getD toolchain ∧
    built.bridge.config = (lastSet? settings .tools).getD {} ∧
    built.log = (lastSet? settings .log).getD .stdout ∧
    (∀ operation history, built.Employs history (built.perform operation) fun product after =>
      ∀ answer, product = .output answer → built.Answered after answer) ∧
    (∀ others, (∀ part, lastSet? others part = lastSet? settings part) →
      ∀ operation session, ((start.setAll others).perform operation).run session =
        (built.perform operation).run session) ∧
    ∀ before one other after, settings = before ++ one ++ other ++ after →
      (∀ first ∈ one, ∀ second ∈ other, first.Apart second) →
        start.setAll (before ++ other ++ one ++ after) = built := by
  intro start built
  have parts := get_setAll start settings
  refine ⟨stages_setAll start settings, parts .fileSystem, parts .runner, parts .tools, parts .log,
    fun operation history => built.employs_perform history operation, ?_, ?_⟩
  · intro others same operation session
    rw [setAll_congr start same]
  · rintro before one other after rfl apart
    exact setAll_congr start (lastSet?_swap apart before after)

/-- The tools are set and then the runner, which keeps them; a new bridge replaces both. -/
example (start : Pipeline δ τ) (runner other : Toolchain (History δ τ))
    (tools : ToolchainConfig) :
    start.setAll [.config tools, .toolchain runner] = start.setAll [.bridge ⟨runner, tools⟩] ∧
      start.setAll [.bridge ⟨other, {}⟩, .config tools, .toolchain runner] =
        start.setAll [.bridge ⟨runner, tools⟩] := ⟨rfl, rfl⟩

end StagedBuild.Pipeline
