import Mathlib.Data.List.Basic
import StagedBuild.Proofs.Slotwise

/-!
# Generation, input by input

While no collaborator looks at earlier calls (`Steady`), what becomes of an input depends on the
input alone: `fate` takes one path through all steps. The pipeline works stage by stage over the
whole batch instead; `generate_eq_fates` says that it gives every input its fate, and in which
order the store sees failures and warnings.
-/

namespace StagedBuild.Pipeline

variable {δ τ α β : Type} (pipeline : Pipeline δ τ)

/-- The answers of the collaborators that sources are generated with do not depend on earlier
calls. -/
structure Steady : Prop where
  read : ∀ history path, pipeline.fileSystem.read history path = pipeline.fileSystem.read [] path
  decode : ∀ history dump, pipeline.stages.decode history dump = pipeline.stages.decode [] dump
  translate : ∀ history tree asMainFile,
    pipeline.stages.translate history tree asMainFile =
      pipeline.stages.translate [] tree asMainFile
  refresh : ∀ history, pipeline.stages.passes.refresh history = pipeline.stages.passes.refresh []
  runRound : ∀ history round tree,
    pipeline.stages.passes.runRound history round tree =
      pipeline.stages.passes.runRound [] round tree
  generate : ∀ history tree,
    pipeline.stages.generate history tree = pipeline.stages.generate [] tree

/-- The stages of generation, by what can fail in them. -/
inductive Phase where
  | decode
  | translate
  | refresh
  | generate
  deriving DecidableEq, Repr

/-- Every phase, in the order of the stages. -/
def Phase.all : List Phase := [.decode, .translate, .refresh, .generate]

/-- What becomes of one input: its source or its first failure, and the warnings it causes. -/
structure Fate where
  result : Except (Phase × Failure) String
  warnings : List Diagnostic := []

/-- The failure of the input, if it fails in this phase. -/
def Fate.failureAt? (fate : Fate) (phase : Phase) : Option Failure :=
  match fate.result with
  | .ok _ => none
  | .error (reached, failure) => if reached = phase then some failure else none

/-- Reads and decodes one input. -/
def decoded (path : String) : Except Failure δ :=
  pipeline.fileSystem.read [] path >>= pipeline.stages.decode []

/-- Translates one tree. -/
def translated (single : Bool) (tree : δ) : Except Failure τ :=
  pipeline.stages.translate [] tree single

/-- Takes one input through all steps, up to the first that fails. -/
def fate (single : Bool) (path : String) : Fate :=
  match pipeline.decoded path with
  | .error failure => { result := .error (.decode, failure) }
  | .ok decoded =>
  match pipeline.translated single decoded with
  | .error failure => { result := .error (.translate, failure) }
  | .ok tree =>
  match pipeline.stages.passes.refresh [] with
  | .error failure => { result := .error (.refresh, failure) }
  | .ok () =>
    let (first, early) := pipeline.stages.passes.runRound [] .first tree
    let (second, late) := pipeline.stages.passes.runRound [] .second first
    match pipeline.stages.generate [] second with
    | .error failure => { result := .error (.generate, failure), warnings := early ++ late }
    | .ok source => { result := .ok source, warnings := early ++ late }

/-- The step has this result and records these warnings, after whatever calls. -/
def Gives (step : Action δ τ α) (result : Except Failure α) (noted : List Diagnostic) : Prop :=
  ∀ history store, ∃ after, step.run ⟨history, store⟩ =
    (result, ⟨after, { store with warnings := store.warnings ++ noted }⟩)

theorem Gives.tryCall {made : Call δ τ} {answer : History δ τ → Except Failure α}
    (steady : ∀ history, answer history = answer []) :
    Gives (tryCall made answer) (answer []) [] := by
  intro history store
  exact ⟨_, by rw [run_tryCall, steady, List.append_nil]⟩

theorem Gives.bind_ok {step : Action δ τ α} {next : α → Action δ τ β} {value : α}
    {result : Except Failure β} {noted more : List Diagnostic}
    (first : Gives step (.ok value) noted) (second : Gives (next value) result more) :
    Gives (step >>= next) result (noted ++ more) := by
  intro history store
  obtain ⟨middle, run⟩ := first history store
  obtain ⟨after, runNext⟩ := second middle _
  refine ⟨after, ?_⟩
  rw [Step.run_bind_ok run, runNext, List.append_assoc]

theorem Gives.bind_error {step : Action δ τ α} {next : α → Action δ τ β} {failure : Failure}
    {noted : List Diagnostic} (first : Gives step (.error failure) noted) :
    Gives (step >>= next) (.error failure) noted := by
  intro history store
  obtain ⟨after, run⟩ := first history store
  exact ⟨after, Step.run_bind_error run⟩

/-- A stage whose steps have known results goes by the element alone. -/
def Gives.toStage {stage : α → Action δ τ β} {result : α → Except Failure β}
    {noted : α → List Diagnostic}
    (gives : ∀ value, Gives (stage value) (result value) (noted value)) :
    Batch.Stage (History δ τ) α β where
  act := stage
  result := result
  noted := noted
  answers value session := by
    obtain ⟨after, run⟩ := gives value session.world session.store
    exact ⟨after, by rw [Session.told, List.append_nil, ← run]⟩

/-- A stage over a batch, while failures are kept: slot by slot the stage's own result. -/
theorem Gives.mapM {stage : α → Action δ τ β} {result : α → Except Failure β}
    {noted : α → List Diagnostic}
    (gives : ∀ value, Gives (stage value) (result value) (noted value))
    (slots : List (Option α)) (history : History δ τ) (errors : List Failure)
    (warnings : List Diagnostic) :
    ∃ after, (slots.mapM (Batch.trySlot stage)).run ⟨history, ⟨errors, warnings, false⟩⟩ =
      (.ok (slots.map (slotResult result)), ⟨after, ⟨errors ++ slots.flatMap (slotFailures result),
        warnings ++ slots.flatMap (slotWarnings noted), false⟩⟩) := by
  obtain ⟨after, _, run, -, all⟩ :=
    (Gives.toStage gives).run_mapM slots ⟨history, ⟨errors, warnings, false⟩⟩
  cases all (.inl rfl)
  exact ⟨after, run⟩

/-- A stage that is announced and taken over one slot for each input, while failures are kept. -/
theorem Gives.stage {ι : Type} {stage : α → Action δ τ β} {result : α → Except Failure β}
    {noted : α → List Diagnostic}
    (gives : ∀ value, Gives (stage value) (result value) (noted value))
    (line : String) (inputs : List ι) (slot : ι → Option α) (history : History δ τ)
    (errors : List Failure) (warnings : List Diagnostic) :
    ∃ after, (pipeline.emit line >>= fun _ => (Batch.mk (inputs.map slot)).tryMap stage).run
        ⟨history, ⟨errors, warnings, false⟩⟩ =
      (.ok ⟨inputs.map fun input => slotResult result (slot input)⟩,
        ⟨after, ⟨errors ++ inputs.flatMap fun input => slotFailures result (slot input),
          warnings ++ inputs.flatMap fun input => slotWarnings noted (slot input), false⟩⟩) := by
  obtain ⟨after, run⟩ :=
    Gives.mapM gives (inputs.map slot) (history ++ [.emit pipeline.log line]) errors warnings
  refine ⟨after, ?_⟩
  rw [Pipeline.emit, Step.run_bind_ok (run_call _ _ _), Batch.tryMap, Step.run_bind_ok run]
  simp [List.flatMap_map, Function.comp_def]

/-- A stage that records no warnings. -/
theorem Gives.silentStage {ι : Type} {stage : α → Action δ τ β} {result : α → Except Failure β}
    (gives : ∀ value, Gives (stage value) (result value) []) (line : String) (inputs : List ι)
    (slot : ι → Option α) (history : History δ τ) (errors : List Failure)
    (warnings : List Diagnostic) :
    ∃ after, (pipeline.emit line >>= fun _ => (Batch.mk (inputs.map slot)).tryMap stage).run
        ⟨history, ⟨errors, warnings, false⟩⟩ =
      (.ok ⟨inputs.map fun input => slotResult result (slot input)⟩,
        ⟨after, ⟨errors ++ inputs.flatMap fun input => slotFailures result (slot input),
          warnings, false⟩⟩) := by
  obtain ⟨after, run⟩ := Gives.stage pipeline gives line inputs slot history errors warnings
  refine ⟨after, run.trans ?_⟩
  have none : (inputs.flatMap fun input => slotWarnings (fun _ => []) (slot input)) = [] := by
    simp [slotWarnings_silent]
  rw [none, List.append_nil]

/-- The tree after both rounds, if the library can be made anew. -/
def changed (tree : τ) : Except Failure τ :=
  pipeline.stages.passes.refresh [] >>= fun _ =>
    .ok (pipeline.stages.passes.runRound [] .second
      (pipeline.stages.passes.runRound [] .first tree).1).1

/-- The warnings of both rounds, which run if the library can be made anew. -/
def changeWarnings (tree : τ) : List Diagnostic :=
  match pipeline.stages.passes.refresh [] with
  | .error _ => []
  | .ok _ =>
    (pipeline.stages.passes.runRound [] .first tree).2 ++
      (pipeline.stages.passes.runRound [] .second
        (pipeline.stages.passes.runRound [] .first tree).1).2

section Steady

variable {pipeline} (steady : pipeline.Steady)
include steady

theorem Steady.decodeFile (path : String) :
    Gives (pipeline.decodeFile path) (pipeline.decoded path) [] := by
  have first : Gives
      (tryCall (.read path) fun history => pipeline.fileSystem.read history path)
      (pipeline.fileSystem.read [] path) [] :=
    Gives.tryCall fun history => steady.read history path
  cases found : pipeline.fileSystem.read [] path with
  | error failure =>
    rw [found] at first
    rw [decoded, found]
    exact first.bind_error
  | ok dump =>
    rw [found] at first
    rw [decoded, found]
    exact first.bind_ok (Gives.tryCall fun history => steady.decode history dump)

theorem Steady.translateTree (single : Bool) (tree : δ) :
    Gives (pipeline.translateTree single tree) (pipeline.translated single tree) [] :=
  Gives.tryCall fun history => steady.translate history tree single

theorem Steady.generateSource (tree : τ) :
    Gives (pipeline.generateSource tree) (pipeline.stages.generate [] tree) [] :=
  Gives.tryCall fun history => steady.generate history tree

theorem Steady.runRound_gives (round : PassRound) (tree : τ) :
    Gives (pipeline.runRound round tree)
      (.ok (pipeline.stages.passes.runRound [] round tree).1)
      (pipeline.stages.passes.runRound [] round tree).2 := by
  intro history store
  obtain ⟨result, replied, run⟩ := pipeline.makes_runRound round tree history
  refine ⟨history ++ [.runRound round tree], ?_⟩
  rw [run store, warningsOf, steady.runRound]
  cases result with
  | error failure => cases replied
  | ok changed =>
    simp only [reply, Except.map, Except.ok.injEq, Reply.tree.injEq] at replied
    rw [← replied, steady.runRound]

theorem Steady.bothRounds (tree : τ) :
    Gives (do
      pipeline.refreshLibrary
      let changed ← pipeline.runRound .first tree
      pipeline.runRound .second changed)
      (pipeline.changed tree) (pipeline.changeWarnings tree) := by
  have refreshed : Gives pipeline.refreshLibrary (pipeline.stages.passes.refresh []) [] :=
    Gives.tryCall steady.refresh
  cases library : pipeline.stages.passes.refresh [] with
  | error failure =>
    rw [library] at refreshed
    simp only [changed, changeWarnings, library]
    exact refreshed.bind_error
  | ok _ =>
    rw [library] at refreshed
    simp only [changed, changeWarnings, library]
    exact refreshed.bind_ok
      ((steady.runRound_gives .first tree).bind_ok (steady.runRound_gives .second _))

end Steady

/-- The slot of one input after it was decoded. -/
def decodedSlot (path : String) : Option δ :=
  slotResult pipeline.decoded (some path)

/-- The slot of one input after it was translated. -/
def translatedSlot (single : Bool) (path : String) : Option τ :=
  slotResult (pipeline.translated single) (pipeline.decodedSlot path)

/-- The slot of one input after both rounds. -/
def changedSlot (single : Bool) (path : String) : Option τ :=
  slotResult pipeline.changed (pipeline.translatedSlot single path)

/-- The fate of an input is what its slot meets in each stage. -/
structure FateOfSlots (single : Bool) (path : String) : Prop where
  decode : ((pipeline.fate single path).failureAt? .decode).toList =
    slotFailures pipeline.decoded (some path)
  translate : ((pipeline.fate single path).failureAt? .translate).toList =
    slotFailures (pipeline.translated single) (pipeline.decodedSlot path)
  refresh : ((pipeline.fate single path).failureAt? .refresh).toList =
    slotFailures pipeline.changed (pipeline.translatedSlot single path)
  generate : ((pipeline.fate single path).failureAt? .generate).toList =
    slotFailures (pipeline.stages.generate []) (pipeline.changedSlot single path)
  warnings : (pipeline.fate single path).warnings =
    slotWarnings pipeline.changeWarnings (pipeline.translatedSlot single path)
  result : (pipeline.fate single path).result.toOption =
    slotResult (pipeline.stages.generate []) (pipeline.changedSlot single path)

theorem fate_of_slots (single : Bool) (path : String) : pipeline.FateOfSlots single path := by
  suffices all : _ ∧ _ ∧ _ ∧ _ ∧ _ ∧ _ from
    ⟨all.1, all.2.1, all.2.2.1, all.2.2.2.1, all.2.2.2.2.1, all.2.2.2.2.2⟩
  unfold changedSlot translatedSlot decodedSlot
  cases decode : pipeline.decoded path with
  | error failure =>
    have whole : pipeline.fate single path = { result := .error (.decode, failure) } := by
      simp only [fate, decode]
    rw [whole, slotResult_of_error decode, slotFailures_of_error decode]
    exact ⟨rfl, rfl, rfl, rfl, rfl, rfl⟩
  | ok decoded =>
  rw [slotResult_of_ok decode, slotFailures_of_ok decode]
  cases translate : pipeline.translated single decoded with
  | error failure =>
    have whole : pipeline.fate single path = { result := .error (.translate, failure) } := by
      simp only [fate, decode, translate]
    rw [whole, slotResult_of_error translate, slotFailures_of_error translate]
    exact ⟨rfl, rfl, rfl, rfl, rfl, rfl⟩
  | ok tree =>
  rw [slotResult_of_ok translate, slotFailures_of_ok translate, slotWarnings]
  cases refresh : pipeline.stages.passes.refresh [] with
  | error failure =>
    have whole : pipeline.fate single path = { result := .error (.refresh, failure) } := by
      simp only [fate, decode, translate, refresh]
    have fails : pipeline.changed tree = .error failure := by simp only [changed, refresh]; rfl
    rw [whole, slotResult_of_error fails, slotFailures_of_error fails, changeWarnings, refresh]
    exact ⟨rfl, rfl, rfl, rfl, rfl, rfl⟩
  | ok _ =>
  have changes : pipeline.changed tree = .ok (pipeline.stages.passes.runRound [] .second
      (pipeline.stages.passes.runRound [] .first tree).1).1 := by simp only [changed, refresh]; rfl
  rw [slotResult_of_ok changes, slotFailures_of_ok changes, changeWarnings, refresh]
  cases generate : pipeline.stages.generate [] (pipeline.stages.passes.runRound [] .second
      (pipeline.stages.passes.runRound [] .first tree).1).1 with
  | error failure =>
    rw [slotResult_of_error generate, slotFailures_of_error generate]
    simp only [fate, decode, translate, refresh, generate]
    exact ⟨rfl, rfl, rfl, rfl, trivial, rfl⟩
  | ok source =>
    rw [slotResult_of_ok generate, slotFailures_of_ok generate]
    simp only [fate, decode, translate, refresh, generate]
    exact ⟨rfl, rfl, rfl, rfl, trivial, rfl⟩

/-- Generation over a batch while failures are kept, stage by stage. -/
theorem generate_slots (steady : pipeline.Steady) (inputs : List String) (history : History δ τ)
    (errors : List Failure) (warnings : List Diagnostic) :
    ∃ after, (pipeline.generate inputs).run ⟨history, ⟨errors, warnings, false⟩⟩ =
      (.ok ⟨inputs.map fun path => slotResult (pipeline.stages.generate [])
          (pipeline.changedSlot (isSingle inputs) path)⟩,
        ⟨after, ⟨errors ++
            (inputs.flatMap fun path => slotFailures pipeline.decoded (some path)) ++
            (inputs.flatMap fun path => slotFailures (pipeline.translated (isSingle inputs))
              (pipeline.decodedSlot path)) ++
            (inputs.flatMap fun path => slotFailures pipeline.changed
              (pipeline.translatedSlot (isSingle inputs) path)) ++
            (inputs.flatMap fun path => slotFailures (pipeline.stages.generate [])
              (pipeline.changedSlot (isSingle inputs) path)),
          warnings ++ inputs.flatMap fun path => slotWarnings pipeline.changeWarnings
            (pipeline.translatedSlot (isSingle inputs) path), false⟩⟩) := by
  obtain ⟨_, decoding⟩ := Gives.silentStage pipeline steady.decodeFile
    "\t- Decoding AST dumps..." inputs some history errors warnings
  have first : (pipeline.decode inputs).run _ = _ := decoding
  obtain ⟨_, translating⟩ := Gives.silentStage pipeline (steady.translateTree (isSingle inputs))
    "\t- Translating decoded trees..." inputs pipeline.decodedSlot _ _ warnings
  have second : (pipeline.translate inputs).run _ = _ := (Step.run_bind_ok first).trans translating
  obtain ⟨_, changing⟩ := Gives.stage pipeline steady.bothRounds
    "\t- Running both rounds of passes..." inputs (pipeline.translatedSlot (isSingle inputs)) _ _ _
  have third : (pipeline.runBothRounds inputs).run _ = _ := (Step.run_bind_ok second).trans changing
  obtain ⟨after, generating⟩ := Gives.silentStage pipeline steady.generateSource
    s!"\t- Generating {pipeline.bridge.language.displayName}..." inputs
    (pipeline.changedSlot (isSingle inputs)) _ _ _
  exact ⟨after, (Step.run_bind_ok third).trans generating⟩

/-- Generation over a batch while failures are kept. Every slot holds the source of its own input,
if that comes so far. The store gets the first failure of each input that fails, stage by stage
and in a stage in the order of the inputs, and the warnings of both rounds in the order of the
inputs. -/
theorem generate_eq_fates (steady : pipeline.Steady) (inputs : List String)
    (history : History δ τ) (store : Store) (keeps : store.stopAtFirstError = false) :
    ∃ sources after, (pipeline.generate inputs).run ⟨history, store⟩ = (.ok sources, ⟨after,
        { store with
          errors := store.errors ++ Phase.all.flatMap fun phase =>
            inputs.filterMap fun path =>
              (pipeline.fate (inputs.length == 1) path).failureAt? phase
          warnings := store.warnings ++ inputs.flatMap fun path =>
            (pipeline.fate (inputs.length == 1) path).warnings }⟩) ∧
      sources.size = inputs.length ∧
      ∀ (index : Nat) (path : String), inputs[index]? = some path → ∀ source,
        sources.slots[index]? = some (some source) ↔
          (pipeline.fate (inputs.length == 1) path).result = .ok source := by
  obtain ⟨errors, warnings, stop⟩ := store
  cases keeps
  obtain ⟨after, run⟩ := pipeline.generate_slots steady inputs history errors warnings
  rw [show isSingle inputs = (inputs.length == 1) from rfl] at run
  have fates := pipeline.fate_of_slots (inputs.length == 1)
  simp only [← fun path => (fates path).decode, ← fun path => (fates path).translate,
    ← fun path => (fates path).refresh, ← fun path => (fates path).generate,
    ← fun path => (fates path).warnings, ← fun path => (fates path).result] at run
  refine ⟨⟨inputs.map fun path => (pipeline.fate (inputs.length == 1) path).result.toOption⟩, after,
    run.trans ?_, List.length_map _, ?_⟩
  · simp only [Phase.all, List.flatMap_cons, List.flatMap_nil, List.append_nil,
      List.filterMap_eq_flatMap_toList, List.append_assoc]
  · intro index path found source
    simp only [List.getElem?_map, found, Option.map_some, Option.some.injEq]
    cases (pipeline.fate (inputs.length == 1) path).result <;> simp [Except.toOption]

/-- What the stages say of a node that they do not know. -/
def unknownNode : Diagnostic :=
  .error "unknown node" ⟨"sample", 1, "refuse"⟩

/-- Trees are texts. The text `torn` cannot be decoded and `mute` has no source; every round
warns. -/
def textPipeline : Pipeline String String where
  stages :=
    { decode := fun _ dump => if dump = "torn" then .error (.decode dump unknownNode) else .ok dump
      translate := fun _ tree asMainFile => .ok (if asMainFile then "main " ++ tree else tree)
      passes :=
        { refresh := fun _ => .ok ()
          runRound := fun _ round tree => (tree, [.warning round.name ⟨"sample", 2, "round"⟩]) }
      generate := fun _ tree =>
        if tree = "mute" then .error (.generate tree unknownNode) else .ok tree }
  fileSystem := { read := fun _ path => .ok path, write := fun _ _ _ => .ok () }
  bridge := ⟨⟨"none", fun _ _ => none⟩, {}⟩
  log := .silent

/-- The input that fails last comes first, an input is repeated, and two of four survive. -/
theorem generate_eq_fates_text :
    textPipeline.Steady ∧ (Store.empty false).stopAtFirstError = false ∧
      ∃ sources after,
        (textPipeline.generate ["mute", "a", "torn", "a"]).run ⟨[], Store.empty false⟩ =
          (.ok sources, after) ∧
        after.store.errors = [.decode "torn" unknownNode, .generate "mute" unknownNode] ∧
        after.store.warnings.length = 6 ∧
        sources.size = 4 ∧ sources.slots[1]? = some (some "a") ∧
        sources.slots[3]? = some (some "a") := by
  have steady : textPipeline.Steady := by constructor <;> intros <;> rfl
  obtain ⟨sources, after, run, size, slots⟩ := textPipeline.generate_eq_fates steady
    ["mute", "a", "torn", "a"] [] (Store.empty false) rfl
  refine ⟨steady, rfl, sources, _, run, ?_, ?_, size, (slots 1 "a" rfl "a").mpr rfl,
    (slots 3 "a" rfl "a").mpr rfl⟩
  · dsimp only
    decide
  · dsimp only
    decide

end StagedBuild.Pipeline
