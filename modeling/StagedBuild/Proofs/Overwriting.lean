import Mathlib.Data.List.Dedup
import Mathlib.Data.List.Induction
import StagedBuild.Proofs.ArtifactName
import StagedBuild.Proofs.Writing

/-!
# Which sources are kept

Sources are named after the stems of their inputs, and a later write replaces an earlier one. So
inputs with one stem share a file, which in the end holds the source of the last of them
(`compile_keeps_last`). If all stems differ no source is lost. Inputs that differ in their folders
alone do lose one (`compile_loses_shared_stem`).
-/

namespace StagedBuild.Pipeline

variable {δ τ : Type}

/-- The text that a call leaves at a path. -/
def Call.textAt? (path : String) : Call δ τ → Option String
  | .write target text => if target = path then some text else none
  | _ => none

/-- The text that calls leave at a path: that of the last write there. -/
def textAt? (path : String) (history : History δ τ) : Option String :=
  history.reverse.findSome? (Call.textAt? path)

/-- Every write succeeds, and reading a path gives the last text written there. -/
structure FileSystem.Durable (fileSystem : FileSystem (History δ τ)) : Prop where
  writes : ∀ history path text, fileSystem.write history path text = .ok ()
  reads : ∀ history path text, textAt? path history = some text →
    fileSystem.read history path = .ok text

/-- The input at an index has this stem, and no later one has it. -/
def LastOfStem (inputs : List String) (index : Nat) (stem : String) : Prop :=
  (inputs.map ArtifactPath.stem)[index]? = some stem ∧
    ∀ later, index < later → (inputs.map ArtifactPath.stem)[later]? ≠ some stem

section

variable (pipeline : Pipeline δ τ)

/-- The file of an input holds this text after a history. -/
def Holds (outputDir : String) (history : History δ τ) (input text : String) : Prop :=
  pipeline.fileSystem.read history
    (ArtifactPath.source input outputDir pipeline.bridge.language) = .ok text

/-- The files that the compiler was given, in the call that a history ends with. -/
def CompiledLast (outputDir : String) (history : History δ τ) (paths : List String) : Prop :=
  history.getLast? = some (pipeline.start (pipeline.compilerStart outputDir paths))

/-- What becomes of the sources, one for each input, when a compilation ends after a history. -/
structure KeepsLast (inputs : List String) (outputDir : String) (sources : List String)
    (history : History δ τ) : Prop where
  /-- The file of an input holds the source of the last input with the same stem. -/
  last : ∀ (index : Nat) (input : String), inputs[index]? = some input →
    ∃ last source, index ≤ last ∧ LastOfStem inputs last (ArtifactPath.stem input) ∧
      sources[last]? = some source ∧ pipeline.Holds outputDir history input source
  /-- If no two inputs have one stem, every file holds the source of its own input. -/
  own : (inputs.map ArtifactPath.stem).Nodup → ∀ (index : Nat) (input source : String),
    inputs[index]? = some input → sources[index]? = some source →
      pipeline.Holds outputDir history input source
  /-- The compiler is given as many different files as the inputs have different stems: as many as
  there are inputs exactly if no two have one stem. -/
  different : ∃ paths, pipeline.CompiledLast outputDir history paths ∧
    paths.dedup.length = (inputs.map ArtifactPath.stem).dedup.length ∧
    (paths.dedup.length = inputs.length ↔ (inputs.map ArtifactPath.stem).Nodup)

end

theorem textAt?_append (path : String) (history more : History δ τ) :
    textAt? path (history ++ more) = (textAt? path more).or (textAt? path history) := by
  rw [textAt?, List.reverse_append, List.findSome?_append]
  rfl

theorem textAt?_concat_write (history : History δ τ) (artifact : Artifact) (path : String) :
    textAt? path (history ++ [artifact.write]) =
      if artifact.path = path then some artifact.source else textAt? path history := by
  rw [textAt?_append]
  by_cases same : artifact.path = path <;>
    simp [textAt?, Call.textAt?, Artifact.write, same]

/-- After several writes a path holds what was written there last. -/
theorem textAt?_writes (history : History δ τ) {artifacts : List Artifact} {index : Nat}
    {artifact : Artifact} (found : artifacts[index]? = some artifact) :
    ∃ last kept, index ≤ last ∧ artifacts[last]? = some kept ∧ kept.path = artifact.path ∧
      (∀ later other, last < later → artifacts[later]? = some other →
        other.path ≠ artifact.path) ∧
      textAt? artifact.path (history ++ artifacts.map Artifact.write) = some kept.source := by
  induction artifacts using List.reverseRecOn with
  | nil => simp at found
  | append_singleton artifacts newest ih =>
    have size : (artifacts ++ [newest]).length = artifacts.length + 1 := by simp
    have inside : index < artifacts.length + 1 := by
      rw [← size]
      exact (List.getElem?_eq_some_iff.mp found).1
    rw [List.map_append, ← List.append_assoc, List.map_singleton, textAt?_concat_write]
    by_cases same : newest.path = artifact.path
    · refine ⟨artifacts.length, newest, by omega, by simp, same, ?_, by rw [if_pos same]⟩
      intro later other beyond there
      have := (List.getElem?_eq_some_iff.mp there).1
      omega
    · have earlier : index < artifacts.length := by
        by_contra late
        obtain rfl : index = artifacts.length := by omega
        rw [List.getElem?_concat_length, Option.some.injEq] at found
        exact same (congrArg Artifact.path found)
      rw [List.getElem?_append_left earlier] at found
      obtain ⟨last, kept, after, there, path, latest, text⟩ := ih found
      have within := (List.getElem?_eq_some_iff.mp there).1
      refine ⟨last, kept, after, ?_, path, ?_, ?_⟩
      · rw [List.getElem?_append_left within]
        exact there
      · intro later other beyond found
        by_cases old : later < artifacts.length
        · rw [List.getElem?_append_left old] at found
          exact latest later other beyond found
        · have := (List.getElem?_eq_some_iff.mp found).1
          obtain rfl : later = artifacts.length := by omega
          rw [List.getElem?_concat_length, Option.some.injEq] at found
          rw [← found]
          exact same
      · rw [if_neg same]
        exact text

variable {pipeline : Pipeline δ τ}

/-- A batch without an empty slot is the list of its values. -/
theorem eq_ofList_of_full {batch : Batch String}
    (full : ∀ index : Nat, batch.slots[index]? ≠ some none) :
    batch = Batch.ofList batch.successes := by
  obtain ⟨slots⟩ := batch
  refine congrArg Batch.mk (?_ : slots = (slots.filterMap id).map some)
  induction slots with
  | nil => rfl
  | cons slot slots ih =>
    have rest := ih fun index => full (index + 1)
    cases slot with
    | none => exact absurd rfl (full 0)
    | some value => exact congrArg (List.cons (some value)) rest

/-- If no call of generation fails, it gives a source for every input. -/
theorem generate_of_success {inputs : List String} {session : Session (History δ τ)}
    (succeeds : ∀ calls, ((pipeline.generate inputs).run session).2.world =
      session.world ++ calls → pipeline.failures session.world calls = []) :
    ∃ sources generated,
      (pipeline.generate inputs).run session = (.ok (Batch.ofList sources), generated) ∧
      sources.length = inputs.length := by
  obtain ⟨start, store⟩ := session
  obtain ⟨guides, arrives⟩ := generate_arrives pipeline inputs start store.stopAtFirstError
  obtain ⟨result, store', run, final⟩ := arrives.whole store rfl
  have uncharged : (((Operation.generate inputs).itinerary pipeline start
      store.stopAtFirstError).tell [] (generatePlaces inputs.length)).charges = [] := by
    have failed := succeeds _ (congrArg (fun outcome => outcome.2.world) run)
    exact List.map_eq_nil_iff.mp ((Itinerary.failures_tell _).symm.trans failed)
  cases result with
  | error failure => exact absurd uncharged final.2
  | ok batch =>
    have settles := guides.settles final
    have full : ∀ index : Nat, batch.slots[index]? ≠ some none := by
      intro index empty
      have charged := (settles.charged_iff index).mpr empty
      rw [uncharged] at charged
      cases charged
    have same := eq_ofList_of_full full
    refine ⟨batch.successes, _, run.trans (by rw [← same]), ?_⟩
    rw [← final.1, ← Batch.size_ofList, ← same]
    rfl

/-- A durable file system refuses no source. -/
theorem FileSystem.Durable.failures_writes (durable : pipeline.fileSystem.Durable)
    (history : History δ τ) (artifacts : List Artifact) :
    pipeline.failures history (artifacts.map Artifact.write) = [] := by
  induction artifacts generalizing history with
  | nil => rfl
  | cons artifact artifacts ih =>
    have fine : pipeline.failure? history artifact.write = none := by
      rw [failure?, Artifact.write, reply, durable.writes]
      rfl
    rw [List.map_cons, failures, fine, ih]
    rfl

/-- When every input has its source, each is written for its own input. -/
theorem artifacts_ofList {inputs sources : List String} (size : sources.length = inputs.length)
    (outputDir : String) :
    pipeline.artifacts inputs outputDir (Batch.ofList sources) =
      (inputs.zip sources).map (pipeline.slotArtifact outputDir) := by
  rw [← slotArtifact_withInputs pipeline (size ▸ Batch.size_ofList sources)]
  have slots : ((Batch.ofList sources).withInputs inputs).slots = (inputs.zip sources).map some := by
    rw [Batch.withInputs, Batch.slots_ofList, List.zipWith_map_right, List.map_zip_eq_zipWith]
    rfl
  rw [slots, List.filterMap_map, Function.id_comp, List.filterMap_some]

/-- A compilation in which nothing fails. -/
theorem compile_of_success (durable : pipeline.fileSystem.Durable) {inputs sources : List String}
    {session generated : Session (History δ τ)}
    (generates : (pipeline.generate inputs).run session = (.ok (Batch.ofList sources), generated))
    (size : sources.length = inputs.length) (outputDir : String) :
    let artifacts := (inputs.zip sources).map (pipeline.slotArtifact outputDir)
    let compiler := pipeline.compilerStart outputDir (artifacts.map Artifact.path)
    ∃ output, (pipeline.compile inputs outputDir).run session = (.ok output,
      ⟨generated.world ++ artifacts.map Artifact.write ++
        [pipeline.compileLine, pipeline.start compiler], generated.store⟩) := by
  have compiles := run_compileBatch_of_success (size ▸ Batch.size_ofList sources) outputDir
    (durable.failures_writes generated.world _) generated.store
  dsimp only at compiles ⊢
  rw [artifacts_ofList size] at compiles
  rw [compile_eq, Step.run_bind_ok generates]
  exact ⟨_, compiles⟩

/-- The artifact of an input has its path and its source. -/
theorem getElem?_artifacts (pipeline : Pipeline δ τ) (inputs sources : List String)
    (outputDir : String) {index : Nat} {artifact : Artifact} :
    ((inputs.zip sources).map (pipeline.slotArtifact outputDir))[index]? = some artifact ↔
      ∃ input source, inputs[index]? = some input ∧ sources[index]? = some source ∧
        artifact =
          ⟨ArtifactPath.source input outputDir pipeline.bridge.language, source⟩ := by
  rw [List.getElem?_map, Option.map_eq_some_iff]
  constructor
  · rintro ⟨⟨input, source⟩, found, rfl⟩
    obtain ⟨first, second⟩ := List.getElem?_zip_eq_some.mp found
    exact ⟨input, source, first, second, rfl⟩
  · rintro ⟨input, source, first, second, rfl⟩
    exact ⟨(input, source), List.getElem?_zip_eq_some.mpr ⟨first, second⟩, rfl⟩

/-- Every input has an artifact. -/
theorem artifact_of_input (pipeline : Pipeline δ τ) {inputs sources : List String}
    (size : sources.length = inputs.length) (outputDir : String) {index : Nat} {input : String}
    (found : inputs[index]? = some input) :
    ∃ source, ((inputs.zip sources).map (pipeline.slotArtifact outputDir))[index]? =
      some ⟨ArtifactPath.source input outputDir pipeline.bridge.language, source⟩ := by
  have inside : index < sources.length := by
    rw [size]
    exact (List.getElem?_eq_some_iff.mp found).1
  exact ⟨sources[index], (getElem?_artifacts pipeline inputs sources outputDir).mpr
    ⟨input, _, found, List.getElem?_eq_getElem inside, rfl⟩⟩

/-- The lines and tools at the end leave the files alone. -/
theorem textAt?_compiler (history : History δ τ) (invocation : Invocation) (path : String) :
    textAt? path (history ++ [pipeline.compileLine, pipeline.start invocation]) =
      textAt? path history := by
  rw [textAt?_append]
  rfl

/-- After the writes the file of an input holds the source of the last input with its stem. -/
theorem holds_last (durable : pipeline.fileSystem.Durable) {inputs sources : List String}
    (size : sources.length = inputs.length) (outputDir : String) (history : History δ τ)
    (invocation : Invocation) {index : Nat} {input : String} (found : inputs[index]? = some input) :
    ∃ last source, index ≤ last ∧ LastOfStem inputs last (ArtifactPath.stem input) ∧
      sources[last]? = some source ∧
      pipeline.Holds outputDir
        (history ++ ((inputs.zip sources).map (pipeline.slotArtifact outputDir)).map
          Artifact.write ++ [pipeline.compileLine, pipeline.start invocation]) input source := by
  obtain ⟨_, own⟩ := artifact_of_input pipeline size outputDir found
  obtain ⟨last, kept, after, there, path, latest, text⟩ := textAt?_writes history own
  obtain ⟨other, source, named, written, rfl⟩ :=
    (getElem?_artifacts pipeline inputs sources outputDir).mp there
  refine ⟨last, source, after, ⟨?_, ?_⟩, written, ?_⟩
  · rw [List.getElem?_map, named, Option.map_some, ArtifactPath.source_eq_iff.mp path]
  · intro later beyond same
    rw [List.getElem?_map, Option.map_eq_some_iff] at same
    obtain ⟨newer, found', same⟩ := same
    obtain ⟨_, there'⟩ := artifact_of_input pipeline size outputDir found'
    exact latest later _ beyond there' (ArtifactPath.source_eq_iff.mpr same)
  · apply durable.reads
    rw [textAt?_compiler]
    exact text

/-- There are as many different paths as different stems. -/
theorem length_dedup_sources (inputs : List String) (outputDir : String) (target : Target) :
    (inputs.map fun input => ArtifactPath.source input outputDir target).dedup.length =
      (inputs.map ArtifactPath.stem).dedup.length := by
  have names : (inputs.map fun input => ArtifactPath.source input outputDir target) =
      (inputs.map ArtifactPath.stem).map (ArtifactPath.named outputDir target) := by
    rw [List.map_map]
    exact List.map_congr_left fun input _ => ArtifactPath.source_eq_named input outputDir target
  rw [names, List.dedup_map_of_injective (ArtifactPath.named_injective outputDir target),
    List.length_map]

/-- There are as many different stems as inputs exactly if no two inputs have one. -/
theorem length_dedup_stems (inputs : List String) :
    (inputs.map ArtifactPath.stem).dedup.length = inputs.length ↔
      (inputs.map ArtifactPath.stem).Nodup := by
  rw [← List.dedup_eq_self]
  constructor
  · intro size
    apply (List.dedup_sublist _).eq_of_length
    rw [size, List.length_map]
  · intro same
    rw [same, List.length_map]

/-- The compiler is given the paths of all inputs. -/
theorem paths_artifacts (pipeline : Pipeline δ τ) {inputs sources : List String}
    (size : sources.length = inputs.length) (outputDir : String) :
    ((inputs.zip sources).map (pipeline.slotArtifact outputDir)).map Artifact.path =
      inputs.map fun input => ArtifactPath.source input outputDir pipeline.bridge.language := by
  have inputs' : (inputs.zip sources).map Prod.fst = inputs :=
    List.map_fst_zip (Nat.le_of_eq size.symm)
  conv => rhs; rw [← inputs']
  rw [List.map_map, List.map_map]
  rfl

/-- What becomes of the sources once they are written and compiled. -/
theorem keepsLast (durable : pipeline.fileSystem.Durable) {inputs sources : List String}
    (size : sources.length = inputs.length) (outputDir : String) (history : History δ τ) :
    let artifacts := (inputs.zip sources).map (pipeline.slotArtifact outputDir)
    let compiler := pipeline.compilerStart outputDir (artifacts.map Artifact.path)
    pipeline.KeepsLast inputs outputDir sources (history ++ artifacts.map Artifact.write ++
      [pipeline.compileLine, pipeline.start compiler]) := by
  dsimp only
  have lasts := fun (index : Nat) (input : String) (found : inputs[index]? = some input) =>
    holds_last durable size outputDir history (pipeline.compilerStart outputDir
      (((inputs.zip sources).map (pipeline.slotArtifact outputDir)).map Artifact.path)) found
  refine
    { last := lasts
      own := fun distinct index input source found given => ?_
      different := ⟨_, List.getLast?_append_cons .., ?_⟩ }
  · obtain ⟨last, kept, _, ⟨there, _⟩, written, holds⟩ := lasts index input found
    have here : (inputs.map ArtifactPath.stem)[index]? = some (ArtifactPath.stem input) := by
      rw [List.getElem?_map, found, Option.map_some]
    have inside := (List.getElem?_eq_some_iff.mp here).1
    obtain rfl : index = last := (List.getElem?_inj inside distinct).mp (here.trans there.symm)
    rw [written, Option.some.injEq] at given
    rw [← given]
    exact holds
  · rw [paths_artifacts pipeline size, length_dedup_sources]
    exact ⟨rfl, length_dedup_stems inputs⟩

/-- If no call of generation fails and the file system is durable, compilation succeeds, and the file
of every input holds the source of the last input with the same stem: its own source, if all stems
differ. The compiler is given as many different files as there are different stems, so one for each
input exactly if all stems differ. -/
theorem compile_keeps_last (pipeline : Pipeline δ τ) (inputs : List String) (outputDir : String)
    (session : Session (History δ τ))
    (succeeds : ∀ calls, ((pipeline.generate inputs).run session).2.world =
      session.world ++ calls → pipeline.failures session.world calls = [])
    (durable : pipeline.fileSystem.Durable) :
    ∃ sources generated output after,
      (pipeline.generate inputs).run session = (.ok (Batch.ofList sources), generated) ∧
      sources.length = inputs.length ∧
      (pipeline.compile inputs outputDir).run session = (.ok output, after) ∧
      pipeline.KeepsLast inputs outputDir sources after.world := by
  obtain ⟨sources, generated, generates, size⟩ := generate_of_success succeeds
  obtain ⟨output, compiles⟩ := compile_of_success durable generates size outputDir
  exact ⟨sources, generated, output, _, generates, size, compiles,
    keepsLast durable size outputDir generated.world⟩

/-- Every collaborator passes on what it is given, and the file system keeps what is written. A file
that nobody wrote holds its own path. -/
def diskPipeline : Pipeline String String where
  stages :=
    { decode := fun _ dump => .ok dump
      translate := fun _ tree _ => .ok tree
      passes := { refresh := fun _ => .ok (), runRound := fun _ _ tree => (tree, []) }
      generate := fun _ tree => .ok tree }
  fileSystem :=
    { read := fun history path => .ok ((textAt? path history).getD path)
      write := fun _ _ _ => .ok () }
  bridge := ⟨⟨"none", fun _ _ => none⟩, {}⟩
  log := .silent

theorem durable_diskPipeline : diskPipeline.fileSystem.Durable where
  writes _ _ _ := rfl
  reads history path text written := by
    show Except.ok ((textAt? path history).getD path) = Except.ok text
    rw [written, Option.getD_some]

theorem failures_diskPipeline (history calls : History String String) :
    diskPipeline.failures history calls = [] := by
  induction calls generalizing history with
  | nil => rfl
  | cons call calls ih =>
    have fine : diskPipeline.failure? history call = none := by cases call <;> rfl
    rw [failures, fine, ih]
    rfl

/-- Two of three inputs share a stem. -/
theorem compile_keeps_last_disk :
    (∀ calls, ((diskPipeline.generate ["a/x.dump", "y", "b/x.dump"]).run
        ⟨[], Store.empty true⟩).2.world = [] ++ calls → diskPipeline.failures [] calls = []) ∧
      diskPipeline.fileSystem.Durable ∧
      ∃ sources generated output after,
        (diskPipeline.generate ["a/x.dump", "y", "b/x.dump"]).run ⟨[], Store.empty true⟩ =
          (.ok (Batch.ofList sources), generated) ∧
        sources.length = 3 ∧
        (diskPipeline.compile ["a/x.dump", "y", "b/x.dump"] "out").run ⟨[], Store.empty true⟩ =
          (.ok output, after) ∧
        diskPipeline.KeepsLast ["a/x.dump", "y", "b/x.dump"] "out" sources after.world :=
  ⟨fun calls _ => failures_diskPipeline [] calls, durable_diskPipeline,
    compile_keeps_last diskPipeline ["a/x.dump", "y", "b/x.dump"] "out" ⟨[], Store.empty true⟩
      (fun calls _ => failures_diskPipeline [] calls) durable_diskPipeline⟩

/-- Two different inputs, whose stem is one: both are generated and written, but the file of the
first holds the source of the second, and the compiler is given one file, twice. -/
theorem compile_loses_shared_stem :
    let inputs := ["a/x.dump", "b/x.dump"]
    let generated := (diskPipeline.generate inputs).run ⟨[], Store.empty false⟩
    let ended := (diskPipeline.compile inputs "out").run ⟨[], Store.empty false⟩
    inputs.Nodup ∧ diskPipeline.fileSystem.Durable ∧
      generated.1 = .ok (Batch.ofList ["a/x.dump", "b/x.dump"]) ∧
      ended.1 = .ok none ∧
      diskPipeline.Holds "out" ended.2.world "a/x.dump" "b/x.dump" ∧
      ¬ diskPipeline.Holds "out" ended.2.world "a/x.dump" "a/x.dump" ∧
      diskPipeline.CompiledLast "out" ended.2.world ["out/x.kt", "out/x.kt"] ∧
      ["out/x.kt", "out/x.kt"].dedup.length < inputs.length := by
  refine ⟨by decide, durable_diskPipeline, ?_, ?_, ?_, ?_, ?_, by decide⟩
  · decide +kernel
  · decide +kernel
  · show diskPipeline.fileSystem.read _ _ = _
    decide +kernel
  · show ¬ diskPipeline.fileSystem.read _ _ = _
    decide +kernel
  · show List.getLast? _ = _
    decide +kernel

end StagedBuild.Pipeline
