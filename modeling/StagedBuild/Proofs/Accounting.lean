import StagedBuild.Proofs.Route
import StagedBuild.Proofs.Stopping

/-!
# Accounting for failures

While failures are kept, every operation succeeds with a slot for every input, and the errors it
records are the failures of its calls, each charged to one input. No input is charged twice, and the
charged inputs are the ones that failed (`perform_accounts`).
-/

namespace StagedBuild.Pipeline

variable {δ τ α β : Type}

/-- The step succeeds with a value of which something holds; no call of it fails, and it leaves the
store alone. -/
def Quiet (pipeline : Pipeline δ τ) (step : Action δ τ α) (holds : α → Prop) : Prop :=
  ∀ session : Session (History δ τ), ∃ value calls,
    step.run session = (.ok value, { session with world := session.world ++ calls }) ∧
    pipeline.failures session.world calls = [] ∧ holds value

namespace Quiet

variable {pipeline : Pipeline δ τ}

theorem pure {value : α} {holds : α → Prop} (held : holds value) :
    pipeline.Quiet (pure value) holds := by
  intro session
  refine ⟨value, [], ?_, rfl, held⟩
  rw [List.append_nil]
  rfl

theorem bind {step : Action δ τ α} {next : α → Action δ τ β} {holds : α → Prop}
    {holds' : β → Prop} (first : pipeline.Quiet step holds)
    (second : ∀ value, holds value → pipeline.Quiet (next value) holds') :
    pipeline.Quiet (step >>= next) holds' := by
  intro session
  obtain ⟨value, calls, run, success, held⟩ := first session
  obtain ⟨last, more, runNext, successNext, held'⟩ :=
    second value held { session with world := session.world ++ calls }
  refine ⟨last, calls ++ more, ?_, ?_, held'⟩
  · rw [Step.run_bind_ok run, runNext, List.append_assoc]
  · rw [failures_append, success, successNext, List.append_nil]

theorem emit (line : String) : pipeline.Quiet (pipeline.emit line) fun _ => True := by
  intro session
  exact ⟨(), [.emit pipeline.log line], rfl, rfl, trivial⟩

theorem invoke (invocation : Invocation) :
    pipeline.Quiet (pipeline.invoke invocation) fun _ => True := by
  intro session
  exact ⟨_, [.invoke pipeline.bridge.toolchain.name invocation], rfl, rfl, trivial⟩

end Quiet

namespace Itinerary

open Chronicle

/-- The charges name exactly the inputs that failed, each once. -/
structure Settles (told : Chronicle δ τ) (failed : Nat → Prop) : Prop where
  once : (told.charges.map Prod.fst).Nodup
  charged_iff : ∀ input, input ∈ told.charges.map Prod.fst ↔ failed input

variable {itinerary : Itinerary δ τ}

/-- The charges are the failures of the calls, in the order of the calls. -/
theorem failures_tell (agenda : List Place) :
    itinerary.pipeline.failures itinerary.start (itinerary.tell [] agenda).calls =
      (itinerary.tell [] agenda).charges.map Prod.snd := by
  refine itinerary.tell_induction (fun told => itinerary.pipeline.failures itinerary.start
    told.calls = told.charges.map Prod.snd) rfl ?_
  intro told place _ call ih due _
  rw [calls_append, charges_append, failures_append, List.map_append, ih, calls_singleton,
    failures_singleton, entry, failure?]
  cases place with
  | opening stage =>
    cases due
    rfl
  | visit stage input step =>
    cases itinerary.pipeline.reply (itinerary.start ++ told.calls) call with
    | ok answer => rfl
    | error failure => rfl

/-- Who is charged once its inputs all stand at the same step. -/
theorem Aligned.settles {agenda : List Place} {step size : Nat}
    {shows : Nat → α → List (Reply δ τ) → Prop} {batch : Batch α}
    (aligned : itinerary.Aligned (itinerary.tell [] agenda) step shows size batch)
    (silent : ∀ input, itinerary.route input [] = none → ∀ answers,
      itinerary.route input answers = none)
    (outside : ∀ input, batch.slots[input]? = none → itinerary.route input [] = none) :
    Settles (itinerary.tell [] agenda) fun input =>
      batch.slots[input]? = some none ∧ itinerary.route input [] ≠ none := by
  have unasked : ∀ input, itinerary.route input [] = none →
      (itinerary.tell [] agenda).chargeCount input = 0 := by
    intro input none
    refine (itinerary.tell_frame [] fun place _ about told => ?_).2.trans rfl
    cases place with
    | opening stage => cases about
    | visit stage other step =>
      cases about
      rw [due, silent input none, ite_self]
  have counted : ∀ input,
      ((itinerary.tell [] agenda).chargeCount input = 1 ∧
        batch.slots[input]? = some none ∧ itinerary.route input [] ≠ none) ∨
      ((itinerary.tell [] agenda).chargeCount input = 0 ∧
        ¬ (batch.slots[input]? = some none ∧ itinerary.route input [] ≠ none)) := by
    intro input
    by_cases asked : itinerary.route input [] = none
    · exact .inr ⟨unasked input asked, fun both => both.2 asked⟩
    · cases found : batch.slots[input]? with
      | none => exact absurd (outside input found) asked
      | some slot =>
        have stands := aligned.2 input slot found
        cases slot with
        | some value => exact .inr ⟨stands.2.2, by simp⟩
        | none =>
          rcases stands with ⟨_, charged⟩ | ⟨_, none, _⟩
          · exact .inl ⟨charged, rfl, asked⟩
          · exact absurd none asked
  constructor
  · rw [List.nodup_iff_count]
    intro input
    rcases counted input with ⟨count, _⟩ | ⟨count, _⟩
    all_goals rw [chargeCount] at count; omega
  · intro input
    rw [← List.count_pos_iff, ← chargeCount]
    rcases counted input with ⟨count, failed⟩ | ⟨count, fine⟩
    · exact iff_of_true (by omega) failed
    · exact iff_of_false (by omega) fine

theorem Settles.congr {told : Chronicle δ τ} {failed failed' : Nat → Prop}
    (settles : Settles told failed) (same : ∀ input, failed input ↔ failed' input) :
    Settles told failed' :=
  ⟨settles.once, fun input => (settles.charged_iff input).trans (same input)⟩

/-- Who is charged in a run over inputs: those whose slot is empty in the end. -/
theorem Guides.settles {inputs : List String} (guides : itinerary.Guides inputs)
    {agenda : List Place} {step : Nat} {shows : Nat → α → List (Reply δ τ) → Prop}
    {batch : Batch α}
    (aligned : itinerary.Aligned (itinerary.tell [] agenda) step shows inputs.length batch) :
    Settles (itinerary.tell [] agenda) fun input => batch.slots[input]? = some none := by
  have asked : ∀ input, itinerary.route input [] = none → inputs[input]? = none := by
    intro input none
    cases found : inputs[input]? with
    | none => rfl
    | some path =>
      rw [guides.leads found rfl (by simp)] at none
      cases none
  have outside : ∀ input, batch.slots[input]? = none → itinerary.route input [] = none := by
    intro input missing
    apply guides.outside
    rw [List.getElem?_eq_none_iff] at missing ⊢
    rw [← aligned.1]
    exact missing
  have silent : ∀ input, itinerary.route input [] = none → ∀ answers,
      itinerary.route input answers = none :=
    fun input none answers => guides.outside input answers (asked input none)
  refine (aligned.settles silent outside).congr fun input =>
    and_iff_left_of_imp fun empty none => ?_
  have missing := asked input none
  rw [List.getElem?_eq_none_iff, ← aligned.1] at missing
  rw [List.getElem?_eq_none missing] at empty
  cases empty

/-- A step that keeps failures arrives. -/
theorem Arrives.kept {agenda : List Place} {work : Action δ τ α} {holds : α → Prop}
    (arrives : itinerary.Arrives [] agenda work holds) (keeps : itinerary.stop = false)
    (store : Store) (stop : store.stopAtFirstError = false) :
    ∃ value store', work.run ⟨itinerary.start, store⟩ =
        (.ok value, ⟨itinerary.start ++ (itinerary.tell [] agenda).calls, store'⟩) ∧
      holds value := by
  obtain ⟨result, store', run, final⟩ := arrives.whole store (stop.trans keeps.symm)
  cases result with
  | ok value => exact ⟨value, store', run, final⟩
  | error failure =>
    obtain ⟨stops, _⟩ := final
    rw [keeps] at stops
    cases stops

/-- The errors of a run that keeps failures are those of its charges. -/
theorem Arrives.accounts {agenda : List Place} {work : Action δ τ α} {tail : α → Action δ τ β}
    {holds : α → Prop} {holds' : β → Prop}
    (arrives : itinerary.Arrives [] agenda work holds) (keeps : itinerary.stop = false)
    (quiet : ∀ value, holds value → itinerary.pipeline.Quiet (tail value) holds')
    (governed : itinerary.pipeline.Governed (work >>= tail)) (errors : List Failure)
    (warnings : List Diagnostic) :
    ∃ product rest noted, (work >>= tail).run ⟨itinerary.start, ⟨errors, warnings, false⟩⟩ =
        (.ok product, ⟨itinerary.start ++ ((itinerary.tell [] agenda).calls ++ rest),
          ⟨errors ++ (itinerary.tell [] agenda).charges.map Prod.snd, noted, false⟩⟩) ∧
      itinerary.pipeline.failures itinerary.start ((itinerary.tell [] agenda).calls ++ rest) =
        (itinerary.tell [] agenda).charges.map Prod.snd ∧
      holds' product := by
  obtain ⟨value, store', run, held⟩ := arrives.kept keeps ⟨errors, warnings, false⟩ rfl
  obtain ⟨product, rest, runTail, success, held'⟩ := quiet value held
    ⟨itinerary.start ++ (itinerary.tell [] agenda).calls, store'⟩
  have whole := (Step.run_bind_ok run).trans runTail
  have failed : itinerary.pipeline.failures itinerary.start
      ((itinerary.tell [] agenda).calls ++ rest) =
        (itinerary.tell [] agenda).charges.map Prod.snd := by
    rw [failures_append, success, failures_tell, List.append_nil]
  obtain ⟨product', calls, runs⟩ := governed itinerary.start
  have kept := (runs errors warnings).1
  rw [whole, Prod.mk.injEq, Session.mk.injEq, List.append_assoc] at kept
  obtain ⟨_, sameCalls, sameStore⟩ := kept
  have calls_eq := List.append_cancel_left sameCalls
  refine ⟨product, rest, warnings ++ itinerary.pipeline.warnings itinerary.start calls, ?_, failed,
    held'⟩
  rw [whole, List.append_assoc, sameStore, ← calls_eq, failed]

end Itinerary

variable (pipeline : Pipeline δ τ)

/-- The slot of an input is empty in what an operation gave. -/
def Product.Empty : Product δ τ → Nat → Prop
  | .decoded batch, input => batch.slots[input]? = some none
  | .trees batch, input => batch.slots[input]? = some none
  | .sources batch, input => batch.slots[input]? = some none
  | .output _, _ => False

/-- What the operation gives: a batch with one slot for each input, or the output of a tool. -/
def Operation.Gives : Operation τ → Product δ τ → Prop
  | .decode inputs, product => ∃ trees, product = .decoded trees ∧ trees.size = inputs.length
  | .translate inputs, product | .firstRound inputs, product | .bothRounds inputs, product =>
    ∃ trees, product = .trees trees ∧ trees.size = inputs.length
  | .applyRound _ before, product => ∃ trees, product = .trees trees ∧ trees.size = before.size
  | .generate inputs, product => ∃ sources, product = .sources sources ∧ sources.size = inputs.length
  | .compile .., product | .run .., product => ∃ output, product = .output output

/-- The source of an input could not be written. -/
def Chronicle.FailsToWrite (told : Chronicle δ τ) (input : Nat) : Prop :=
  ∃ entry ∈ told, entry.place.input? = some input ∧
    (∃ path contents, entry.call = .write path contents) ∧
    ∃ failure, entry.reply = .error failure

/-- An input failed in an operation that was carried out in a session. A tree that goes through one
round can only fail if its slot was full; what compiles sources fails for an input if generation
does in that session or if the source cannot be written. -/
def Fails (session : Session (History δ τ)) (told : Chronicle δ τ) :
    Operation τ → Product δ τ → Nat → Prop
  | .decode _, product, input | .translate _, product, input | .firstRound _, product, input
  | .bothRounds _, product, input | .generate _, product, input => product.Empty input
  | .applyRound _ trees, product, input =>
    product.Empty input ∧ ∃ tree, trees.slots[input]? = some (some tree)
  | .compile inputs _, _, input | .run inputs _ _, _, input =>
    (∃ sources after, (pipeline.generate inputs).run session = (.ok sources, after) ∧
      sources.slots[input]? = some none) ∨ told.FailsToWrite input

/-- Runs what was compiled. -/
def runCompiled (outputDir : String) (arguments : List String) (compiled : Option ToolOutput) :
    Action δ τ (Option ToolOutput) :=
  if compiled.any ToolOutput.succeeded then do
    pipeline.emit s!"\t- Running {pipeline.bridge.language.displayName}..."
    pipeline.invoke (pipeline.bridge.config.runInvocation outputDir arguments)
  else return compiled

theorem perform_compile (inputs : List String) (outputDir : String) :
    pipeline.perform (.compile inputs outputDir) =
      pipeline.writeSources inputs outputDir >>= fun written =>
        pipeline.compileSources outputDir written >>= fun output => pure (.output output) := by
  simp only [perform, compile_parts, map_eq_pure_bind, bind_assoc]

theorem perform_run (inputs : List String) (outputDir : String) (arguments : List String) :
    pipeline.perform (.run inputs outputDir arguments) =
      pipeline.writeSources inputs outputDir >>= fun written =>
        pipeline.compileSources outputDir written >>= fun compiled =>
          pipeline.runCompiled outputDir arguments compiled >>= fun output =>
            pure (.output output) := by
  simp only [perform, run, compile_parts, runCompiled, map_eq_pure_bind, bind_assoc]

theorem quiet_compileSources (outputDir : String) (written : Batch String) :
    pipeline.Quiet (pipeline.compileSources outputDir written) fun _ => True :=
  (Quiet.emit _).bind fun _ _ => Quiet.invoke _

theorem quiet_runCompiled (outputDir : String) (arguments : List String)
    (compiled : Option ToolOutput) :
    pipeline.Quiet (pipeline.runCompiled outputDir arguments compiled) fun _ => True := by
  unfold runCompiled
  split
  · exact (Quiet.emit _).bind fun _ _ => Quiet.invoke _
  · exact Quiet.pure trivial

namespace Itinerary

open Chronicle

variable {itinerary : Itinerary δ τ}

/-- Writing adds the inputs whose source cannot be written to those that generation charged. -/
theorem charged_writePlaces {inputs : List String} {language : Target} {outputDir : String}
    (route : ∀ input answers, itinerary.route input answers = inputs[input]?.bind fun path =>
      writeRoute language outputDir (isSingle inputs) path answers) (size input : Nat) :
    input ∈ (itinerary.tell [] (writePlaces size)).charges.map Prod.fst ↔
      input ∈ (itinerary.tell [] (generatePlaces size)).charges.map Prod.fst ∨
        (itinerary.tell [] (writePlaces size)).FailsToWrite input := by
  obtain ⟨more, whole, places⟩ := itinerary.tell_eq_append
    (itinerary.tell [] (generatePlaces size)) (stageVisits 4 7 1 0 size)
  rw [← tell_append] at whole
  have parts : itinerary.tell [] (writePlaces size) =
      itinerary.tell [] (generatePlaces size) ++ more := whole
  constructor
  · intro charged
    obtain ⟨entry, member, about, failed⟩ := mem_charged.mp charged
    rw [parts] at member
    rcases List.mem_append.mp member with early | late
    · exact .inl (mem_charged.mpr ⟨entry, early, about, failed⟩)
    · rw [← parts] at member
      refine .inr ⟨entry, member, about, ?_, failed⟩
      obtain ⟨earlier, due, _⟩ := itinerary.due_of_mem_tell member
      obtain ⟨other, _, _, visited⟩ := mem_stageVisits (places entry late)
      obtain ⟨now, long, _, here⟩ := mem_visits visited
      rw [here] at due
      obtain ⟨counted, next⟩ := itinerary.due_visit due
      rw [route, Option.bind_eq_some_iff] at next
      obtain ⟨path, _, next⟩ := next
      exact writeRoute_of_long (by omega) next
  · rintro (early | ⟨entry, member, about, _, failed⟩)
    · rw [parts, charges_append, List.map_append]
      exact List.mem_append_left _ early
    · exact mem_charged.mpr ⟨entry, member, about, failed⟩

theorem Guides.arrives_writeSources {inputs : List String} (guides : itinerary.Guides inputs)
    (free : ¬ itinerary.Halted []) {outputDir : String}
    (changeLine : itinerary.line 2 = "\t- Running both rounds of passes...")
    (line : itinerary.line 3 =
      s!"\t- Generating {itinerary.pipeline.bridge.language.displayName}...")
    (route : ∀ input answers, itinerary.route input answers = inputs[input]?.bind fun path =>
      writeRoute itinerary.pipeline.bridge.language outputDir (isSingle inputs) path answers) :
    itinerary.Arrives [] (writePlaces inputs.length)
      (itinerary.pipeline.writeSources inputs outputDir)
      (itinerary.Aligned (itinerary.tell [] (writePlaces inputs.length)) 8
        (fun _ _ _ => True) inputs.length) := by
  refine Arrives.bind (guides.arrives_generate free changeLine line) fun sources free' aligned => ?_
  rw [writePlaces, tell_append]
  refine arrives_write free' (fun input path answers found _ => ?_) aligned
  rw [route, found, Option.bind_some]

end Itinerary

/-- The account of an operation that keeps failures. -/
structure Accounted (pipeline : Pipeline δ τ) (operation : Operation τ)
    (session after : Session (History δ τ)) (product : Product δ τ) (told : Chronicle δ τ)
    (rest : History δ τ) : Prop where
  gives : operation.Gives product
  /-- The calls are those of the chronicle, and then some that start tools. -/
  calls : after.world = session.world ++ (told.calls ++ rest)
  faithful : told.Faithful pipeline session.world
  follows : told.Follows (operation.route pipeline.bridge.language)
  /-- The failures of all calls, in the order of the calls, are what the inputs are charged with. -/
  failures : pipeline.failures session.world (told.calls ++ rest) = told.charges.map Prod.snd
  errors : after.store.errors = session.store.errors ++ told.charges.map Prod.snd
  count : after.store.errorCount =
    session.store.errorCount + (told.charges.map Prod.fst).length
  /-- No input is charged twice. -/
  once : (told.charges.map Prod.fst).Nodup
  /-- The inputs that are charged are those that failed. -/
  charged_iff : ∀ input, input ∈ told.charges.map Prod.fst ↔
    pipeline.Fails session told operation product input

/-- The operation succeeds in a session and is accounted for. -/
def Accounts (operation : Operation τ) (session : Session (History δ τ)) : Prop :=
  ∃ product after told rest, (pipeline.perform operation).run session = (.ok product, after) ∧
    Accounted pipeline operation session after product told rest

section

open Itinerary

variable {pipeline} {operation : Operation τ} {history : History δ τ} {errors : List Failure}
  {warnings : List Diagnostic}

/-- An operation whose work follows its itinerary, and whose other calls cannot fail, is
accounted for. -/
theorem accounted_of_arrives {work : Action δ τ α} {tail : α → Action δ τ (Product δ τ)}
    {holds : α → Prop} (parts : pipeline.perform operation = work >>= tail)
    (arrives : (operation.itinerary pipeline history false).Arrives [] operation.agenda work holds)
    (quiet : ∀ value, holds value → pipeline.Quiet (tail value) fun product =>
      operation.Gives product ∧
      Settles ((operation.itinerary pipeline history false).tell [] operation.agenda)
        (pipeline.Fails ⟨history, ⟨errors, warnings, false⟩⟩
          ((operation.itinerary pipeline history false).tell [] operation.agenda)
          operation product)) :
    pipeline.Accounts operation ⟨history, ⟨errors, warnings, false⟩⟩ := by
  have governed := pipeline.governed_perform operation
  rw [parts] at governed
  obtain ⟨product, rest, noted, run, failed, gives, settles⟩ :=
    arrives.accounts rfl quiet governed errors warnings
  rw [← parts] at run
  exact ⟨product, _, _, rest, run,
    { gives
      calls := rfl
      faithful := Itinerary.faithful_tell _ _
      follows := Itinerary.follows_tell _ _
      failures := failed
      errors := rfl
      count := by simp [Store.errorCount]
      once := settles.once
      charged_iff := settles.charged_iff }⟩

/-- An operation that gives one slot for each input. -/
theorem accounted_of_slots {inputs : List String} {step : Nat}
    {shows : Nat → α → List (Reply δ τ) → Prop} {work : Action δ τ (Batch α)}
    {wrap : Batch α → Product δ τ} (parts : pipeline.perform operation = wrap <$> work)
    (decodeLine : operation.line pipeline.bridge.language 0 = "\t- Decoding AST dumps...")
    (translateLine :
      operation.line pipeline.bridge.language 1 = "\t- Translating decoded trees...")
    (route : ∀ input (answers : List (Reply δ τ)),
      operation.route pipeline.bridge.language input answers =
        inputs[input]?.bind fun path => inputRoute (isSingle inputs) path answers)
    (arrives : (operation.itinerary pipeline history false).Guides inputs →
      ¬ (operation.itinerary pipeline history false).Halted [] →
      (operation.itinerary pipeline history false).Arrives [] operation.agenda work
        ((operation.itinerary pipeline history false).Aligned
          ((operation.itinerary pipeline history false).tell [] operation.agenda) step shows
          inputs.length))
    (gives : ∀ batch, batch.size = inputs.length → operation.Gives (wrap batch))
    (fails : ∀ told batch input, pipeline.Fails ⟨history, ⟨errors, warnings, false⟩⟩ told operation
      (wrap batch) input ↔ batch.slots[input]? = some none) :
    pipeline.Accounts operation ⟨history, ⟨errors, warnings, false⟩⟩ := by
  have guides : (operation.itinerary pipeline history false).Guides inputs :=
    guides_of_inputRoute decodeLine translateLine route
  have free : ¬ (operation.itinerary pipeline history false).Halted [] := fun halted => halted.2 rfl
  rw [map_eq_pure_bind] at parts
  refine accounted_of_arrives parts (arrives guides free) fun batch aligned => Quiet.pure ?_
  exact ⟨gives batch aligned.1,
    (guides.settles aligned).congr fun input => (fails _ batch input).symm⟩

/-- An operation that writes the sources and then starts tools. -/
theorem accounted_of_writes {inputs : List String} {outputDir : String}
    {tail : Batch String → Action δ τ (Product δ τ)}
    (parts : pipeline.perform operation = pipeline.writeSources inputs outputDir >>= tail)
    (quiet : ∀ written, pipeline.Quiet (tail written) operation.Gives)
    (agenda : operation.agenda = writePlaces inputs.length)
    (line : operation.line pipeline.bridge.language = stageLine pipeline.bridge.language)
    (route : ∀ input (answers : List (Reply δ τ)),
      operation.route pipeline.bridge.language input answers = inputs[input]?.bind fun path =>
        writeRoute pipeline.bridge.language outputDir (isSingle inputs) path answers)
    (fails : ∀ told product input,
      pipeline.Fails ⟨history, ⟨errors, warnings, false⟩⟩ told operation product input ↔
        (∃ sources after, (pipeline.generate inputs).run ⟨history, ⟨errors, warnings, false⟩⟩ =
          (.ok sources, after) ∧ sources.slots[input]? = some none) ∨ told.FailsToWrite input) :
    pipeline.Accounts operation ⟨history, ⟨errors, warnings, false⟩⟩ := by
  have free : ¬ (operation.itinerary pipeline history false).Halted [] := fun halted => halted.2 rfl
  have lines : ∀ stage, (operation.itinerary pipeline history false).line stage =
      stageLine pipeline.bridge.language stage := fun stage => congrFun line stage
  have guides : (operation.itinerary pipeline history false).Guides inputs :=
    guides_of_writeRoute (lines 0) (lines 1) route
  have generates := guides.arrives_generate free (lines 2) (lines 3)
  have arrives := guides.arrives_writeSources free (lines 2) (lines 3) route
  obtain ⟨sources, generated, run, aligned⟩ :=
    generates.kept rfl ⟨errors, warnings, false⟩ rfl
  have slots := guides.settles aligned
  rw [← agenda] at arrives
  refine accounted_of_arrives parts arrives fun written ready => ?_
  have settles := guides.settles ready
  have failed : ∀ product input,
      written.slots[input]? = some none ↔ pipeline.Fails ⟨history, ⟨errors, warnings, false⟩⟩
        ((operation.itinerary pipeline history false).tell [] operation.agenda)
        operation product input := by
    intro product input
    rw [fails, ← settles.charged_iff, agenda, charged_writePlaces route, slots.charged_iff]
    refine or_congr_left ⟨fun empty => ⟨sources, _, run, empty⟩, ?_⟩
    rintro ⟨sources', after, run', empty⟩
    have same := run.symm.trans run'
    cases same
    exact empty
  intro session
  obtain ⟨product, calls, ran, success, gives⟩ := quiet written session
  exact ⟨product, calls, ran, success, gives, settles.congr (failed product)⟩

/-- One round over given trees: an empty slot is not asked for anything. -/
theorem accounted_of_round (round : PassRound) (trees : Batch τ) :
    pipeline.Accounts (.applyRound round trees) ⟨history, ⟨errors, warnings, false⟩⟩ := by
  have free : ¬ ((Operation.applyRound round trees).itinerary pipeline history
      false).Halted [] := fun halted => halted.2 rfl
  have arrives := Itinerary.arrives_applyRound _ round trees free rfl fun _ _ => rfl
  have unasked : ∀ input, ((Operation.applyRound round trees).itinerary pipeline history
      false).route input [] = none ↔ trees.get? input = none := fun input =>
    roundRoute_nil_eq_none round (trees.get? input)
  refine accounted_of_arrives (map_eq_pure_bind _ _) arrives fun batch aligned => Quiet.pure ?_
  refine ⟨⟨batch, rfl, aligned.1⟩, ?_⟩
  refine (aligned.settles (fun input silent answers => ?_) fun input missing => ?_).congr
    fun input => and_congr_right fun _ => ?_
  · show roundRoute round (trees.get? input) answers = none
    rw [(unasked input).mp silent, roundRoute_none]
  · rw [List.getElem?_eq_none_iff, aligned.1] at missing
    rw [unasked, Batch.get?, List.getElem?_eq_none missing, Option.join_none]
  · rw [Ne, unasked, ← Ne, Option.ne_none_iff_exists', Batch.get?]
    simp only [Option.join_eq_some_iff]

end

/-- While failures are kept, every operation succeeds with one slot for each input, and every error
that it adds is charged to the one input that failed so. -/
theorem perform_accounts (operation : Operation τ) (history : History δ τ) (errors : List Failure)
    (warnings : List Diagnostic) :
    ∃ product after told rest,
      (pipeline.perform operation).run ⟨history, ⟨errors, warnings, false⟩⟩ = (.ok product, after) ∧
      Accounted pipeline operation ⟨history, ⟨errors, warnings, false⟩⟩ after product told
        rest := by
  show pipeline.Accounts operation ⟨history, ⟨errors, warnings, false⟩⟩
  cases operation with
  | decode inputs =>
    exact accounted_of_slots rfl rfl rfl (fun _ _ => rfl)
      (fun guides free => guides.arrives_decode free) (fun batch size => ⟨batch, rfl, size⟩)
      fun _ _ _ => Iff.rfl
  | translate inputs =>
    exact accounted_of_slots rfl rfl rfl (fun _ _ => rfl)
      (fun guides free => guides.arrives_translate free) (fun batch size => ⟨batch, rfl, size⟩)
      fun _ _ _ => Iff.rfl
  | firstRound inputs =>
    exact accounted_of_slots rfl rfl rfl (fun _ _ => rfl)
      (fun guides free => guides.arrives_firstRound free rfl) (fun batch size => ⟨batch, rfl, size⟩)
      fun _ _ _ => Iff.rfl
  | bothRounds inputs =>
    exact accounted_of_slots rfl rfl rfl (fun _ _ => rfl)
      (fun guides free => guides.arrives_bothRounds free rfl) (fun batch size => ⟨batch, rfl, size⟩)
      fun _ _ _ => Iff.rfl
  | generate inputs =>
    exact accounted_of_slots rfl rfl rfl (fun _ _ => rfl)
      (fun guides free => guides.arrives_generate free rfl rfl)
      (fun batch size => ⟨batch, rfl, size⟩) fun _ _ _ => Iff.rfl
  | applyRound round trees => exact accounted_of_round round trees
  | compile inputs outputDir =>
    refine accounted_of_writes (pipeline.perform_compile inputs outputDir) (fun written => ?_)
      rfl rfl (fun _ _ => rfl) fun _ _ _ => Iff.rfl
    exact (pipeline.quiet_compileSources outputDir written).bind fun output _ =>
      Quiet.pure ⟨output, rfl⟩
  | run inputs outputDir arguments =>
    refine accounted_of_writes (pipeline.perform_run inputs outputDir arguments) (fun written => ?_)
      rfl rfl (fun _ _ => rfl) fun _ _ _ => Iff.rfl
    exact (pipeline.quiet_compileSources outputDir written).bind fun compiled _ =>
      (pipeline.quiet_runCompiled outputDir arguments compiled).bind fun output _ =>
        Quiet.pure ⟨output, rfl⟩

end StagedBuild.Pipeline
