import StagedBuild.Proofs.Itinerary

/-!
# Steps that follow an itinerary

A step follows an itinerary when the calls it makes are those that the itinerary tells for an
agenda, whatever the collaborators answer and under either policy.

* `Tells`: steps that work on one input and end with its first failure.
* `Arrives`: steps over a batch. They end with a failure only where the itinerary is halted.
* `Stands`: how far an input has come, as its slot in a batch shows it. A batch that goes through
  a stage stands further on afterwards (`Arrives.stage`).
-/

namespace StagedBuild.Pipeline

/-- The next steps of one input in a stage. -/
def visits (stage input step count : Nat) : List Place :=
  (List.range' step count).map (.visit stage input)

/-- The next steps of consecutive inputs in a stage. -/
def stageVisits (stage step count first size : Nat) : List Place :=
  (List.range' first size).flatMap fun input => visits stage input step count

/-- A stage over all inputs: its opening, then the next steps of every input. -/
def stagePlaces (stage step count size : Nat) : List Place :=
  .opening stage :: stageVisits stage step count 0 size

theorem visits_succ (stage input step count : Nat) :
    visits stage input step (count + 1) =
      .visit stage input step :: visits stage input (step + 1) count := by
  rw [visits, List.range'_succ, List.map_cons]
  rfl

theorem stageVisits_succ (stage step count first size : Nat) :
    stageVisits stage step count first (size + 1) =
      visits stage first step count ++ stageVisits stage step count (first + 1) size := by
  rw [stageVisits, List.range'_succ, List.flatMap_cons]
  rfl

theorem mem_visits {stage input step count : Nat} {place : Place}
    (member : place ∈ visits stage input step count) :
    ∃ now, step ≤ now ∧ now < step + count ∧ place = .visit stage input now := by
  obtain ⟨now, within, rfl⟩ := List.mem_map.mp member
  rw [List.mem_range'_1] at within
  exact ⟨now, within.1, within.2, rfl⟩

theorem mem_stageVisits {stage step count first size : Nat} {place : Place}
    (member : place ∈ stageVisits stage step count first size) :
    ∃ input, first ≤ input ∧ input < first + size ∧ place ∈ visits stage input step count := by
  obtain ⟨input, within, visited⟩ := List.mem_flatMap.mp member
  rw [List.mem_range'_1] at within
  exact ⟨input, within.1, within.2, visited⟩

namespace Itinerary

open Chronicle

variable {δ τ α β : Type} (itinerary : Itinerary δ τ)

/-- How far an input has come. A full slot shows the answers; an input that failed has been charged
once, and an input that is never asked anything has no answers. -/
def Stands (told : Chronicle δ τ) (input step : Nat)
    (shows : Nat → α → List (Reply δ τ) → Prop) : Option α → Prop
  | some value => shows input value (told.answers input) ∧ (told.answers input).length = step ∧
      told.chargeCount input = 0
  | none => ((told.answers input).length < step ∧ told.chargeCount input = 1) ∨
      (told.answers input = [] ∧ itinerary.route input [] = none ∧ told.chargeCount input = 0)

/-- The step makes the next calls for an input that was answered so far, up to the first that
fails; then the input is charged with the failure. -/
def Tells (stage input count : Nat) (answered : List (Reply δ τ)) (step : Action δ τ α)
    (shows : α → List (Reply δ τ) → Prop) : Prop :=
  ∀ (told : Chronicle δ τ) (store : Store), ¬ itinerary.Halted told →
    told.answers input = answered → store.stopAtFirstError = itinerary.stop →
    let after := itinerary.tell told (visits stage input answered.length count)
    ∃ (result : Except Failure α) (store' : Store),
      step.run ⟨itinerary.start ++ told.calls, store⟩ =
        (result, ⟨itinerary.start ++ after.calls, store'⟩) ∧
      store'.stopAtFirstError = itinerary.stop ∧
      match result with
      | .ok value => shows value (after.answers input) ∧
          (after.answers input).length = answered.length + count ∧ after.charges = told.charges
      | .error failure => (after.answers input).length < answered.length + count ∧
          after.charges = told.charges ++ [(input, failure)]

/-- The step makes the calls of the agenda. It gives a value of which something holds, unless a
failure halts it. -/
def Arrives (told : Chronicle δ τ) (agenda : List Place) (step : Action δ τ α)
    (holds : α → Prop) : Prop :=
  ∀ store : Store, store.stopAtFirstError = itinerary.stop →
    ∃ (result : Except Failure α) (store' : Store),
      step.run ⟨itinerary.start ++ told.calls, store⟩ =
        (result, ⟨itinerary.start ++ (itinerary.tell told agenda).calls, store'⟩) ∧
      store'.stopAtFirstError = itinerary.stop ∧
      match result with
      | .ok value => ¬ itinerary.Halted (itinerary.tell told agenda) ∧ holds value
      | .error _ => itinerary.Halted (itinerary.tell told agenda)

/-- A batch with one slot for each input, all of which stand at the same step. -/
def Aligned (told : Chronicle δ τ) (step : Nat) (shows : Nat → α → List (Reply δ τ) → Prop)
    (size : Nat) (batch : Batch α) : Prop :=
  batch.slots.length = size ∧ ∀ (index : Nat) (slot : Option α), batch.slots[index]? = some slot →
    itinerary.Stands told index step shows slot

variable {itinerary}

/-- An input that is behind has no calls. -/
theorem tell_visits_of_behind {told : Chronicle δ τ} {stage input step count : Nat}
    (behind : (told.answers input).length < step) :
    itinerary.tell told (visits stage input step count) = told := by
  apply itinerary.tell_of_idle
  intro place member
  obtain ⟨now, notBefore, _, rfl⟩ := mem_visits member
  rw [due, if_neg]
  omega

/-- An input whose route does not start has no calls. -/
theorem tell_visits_of_unasked {told : Chronicle δ τ} {stage input step count : Nat}
    (silent : told.answers input = []) (unasked : itinerary.route input [] = none) :
    itinerary.tell told (visits stage input step count) = told := by
  apply itinerary.tell_of_idle
  intro place member
  obtain ⟨now, _, _, rfl⟩ := mem_visits member
  rw [due, silent, unasked, ite_self]

/-- Where an input stands depends on what is told about it alone. -/
theorem Stands.congr {told after : Chronicle δ τ} {input step : Nat}
    {shows : Nat → α → List (Reply δ τ) → Prop} {slot : Option α}
    (stands : itinerary.Stands told input step shows slot)
    (same : after.answers input = told.answers input ∧
      after.chargeCount input = told.chargeCount input) :
    itinerary.Stands after input step shows slot := by
  cases slot <;> simpa only [Stands, same.1, same.2] using stands

theorem Tells.pure {stage input : Nat} {answered : List (Reply δ τ)} {value : α}
    {shows : α → List (Reply δ τ) → Prop} (shown : shows value answered) :
    itinerary.Tells stage input 0 answered (pure value) shows := by
  intro told store _ answers stop
  refine ⟨.ok value, store, rfl, stop, ?_⟩
  simp only [visits, List.range'_zero, List.map_nil, tell, List.foldl_nil, answers]
  exact ⟨shown, rfl, trivial⟩

/-- The call that is due for an input, with the reply to it, and the places after it. -/
theorem tell_visits_of_due {told : Chronicle δ τ} {stage input count : Nat}
    {answered : List (Reply δ τ)} {call : Call δ τ} {reply : Except Failure (Reply δ τ)}
    (free : ¬ itinerary.Halted told) (soFar : told.answers input = answered)
    (leads : itinerary.route input answered = some call)
    (replied : itinerary.pipeline.reply (itinerary.start ++ told.calls) call = reply) :
    itinerary.tell told (visits stage input answered.length (count + 1)) =
      itinerary.tell (told ++ [⟨.visit stage input answered.length, call, reply⟩])
        (visits stage input (answered.length + 1) count) := by
  have now : itinerary.due told (.visit stage input answered.length) = some call := by
    rw [due, soFar, if_pos rfl, leads]
  rw [visits_succ, tell, List.foldl_cons, advance, if_neg free, now, ← replied]
  rfl

/-- One call, then the others if it succeeds. -/
theorem Tells.bind {stage input count : Nat} {answered : List (Reply δ τ)}
    {step : Action δ τ α} {next : α → Action δ τ β} {call : Call δ τ} {wrap : α → Reply δ τ}
    {shows : β → List (Reply δ τ) → Prop} (makes : itinerary.pipeline.Makes step call wrap)
    (leads : itinerary.route input answered = some call)
    (rest : ∀ value,
      itinerary.Tells stage input count (answered ++ [wrap value]) (next value) shows) :
    itinerary.Tells stage input (count + 1) answered (step >>= next) shows := by
  intro told store free soFar stop
  obtain ⟨result, replied, run⟩ := makes (itinerary.start ++ told.calls)
  dsimp only
  cases result with
  | error failure =>
    have failed : itinerary.pipeline.reply (itinerary.start ++ told.calls) call =
        .error failure := replied
    rw [tell_visits_of_due free soFar leads failed]
    have same : answers (told ++ [⟨.visit stage input answered.length, call, .error failure⟩])
        input = answered := by
      rw [answers_append, answers_failure, soFar, List.append_nil]
    have behind : (answers (told ++ [⟨.visit stage input answered.length, call, .error failure⟩])
        input).length < answered.length + 1 := by
      rw [same]
      omega
    rw [tell_visits_of_behind behind, calls_append, calls_singleton, ← List.append_assoc]
    refine ⟨.error failure, _, Step.run_bind_error (run store), stop, ?_, ?_⟩
    · rw [same]
      omega
    · rw [charges_append, charges_failure]
  | ok value =>
    have succeeded : itinerary.pipeline.reply (itinerary.start ++ told.calls) call =
        .ok (wrap value) := replied
    rw [tell_visits_of_due free soFar leads succeeded]
    have more : answers (told ++ [⟨.visit stage input answered.length, call, .ok (wrap value)⟩])
        input = answered ++ [wrap value] := by
      rw [answers_append, answers_success, soFar, if_pos rfl]
    have uncharged :
        charges (told ++ [⟨.visit stage input answered.length, call, .ok (wrap value)⟩]) =
          told.charges := by
      rw [charges_append, charges_success, List.append_nil]
    have stillFree : ¬ itinerary.Halted
        (told ++ [⟨.visit stage input answered.length, call, .ok (wrap value)⟩]) := by
      rw [Halted, uncharged]
      exact free
    obtain ⟨last, store', runNext, stop', final⟩ := rest value _
      { store with warnings := store.warnings ++
          itinerary.pipeline.warningsOf (itinerary.start ++ told.calls) call } stillFree more stop
    rw [List.length_append, List.length_singleton] at runNext final
    rw [calls_append, calls_singleton, ← List.append_assoc] at runNext
    refine ⟨last, store', ?_, stop', ?_⟩
    · exact (Step.run_bind_ok (run store)).trans runNext
    · cases last with
      | error failure =>
        refine ⟨?_, ?_⟩
        · have short := final.1
          omega
        · rw [final.2, uncharged]
      | ok output =>
        obtain ⟨shown, long, same⟩ := final
        refine ⟨shown, ?_, ?_⟩
        · omega
        · rw [same, uncharged]

/-- A single call. -/
theorem Tells.single {stage input : Nat} {answered : List (Reply δ τ)} {step : Action δ τ α}
    {call : Call δ τ} {wrap : α → Reply δ τ} {shows : α → List (Reply δ τ) → Prop}
    (makes : itinerary.pipeline.Makes step call wrap)
    (leads : itinerary.route input answered = some call)
    (shown : ∀ value, shows value (answered ++ [wrap value])) :
    itinerary.Tells stage input 1 answered step shows := by
  rw [← bind_pure step]
  exact Tells.bind makes leads fun value => Tells.pure (shown value)

theorem Arrives.pure {told : Chronicle δ τ} {value : α} {holds : α → Prop}
    (free : ¬ itinerary.Halted told) (held : holds value) :
    itinerary.Arrives told [] (pure value) holds := by
  intro store stop
  exact ⟨.ok value, store, rfl, stop, free, held⟩

/-- A whole run, from the start on. -/
theorem Arrives.whole {agenda : List Place} {step : Action δ τ α} {holds : α → Prop}
    (arrives : itinerary.Arrives [] agenda step holds) (store : Store)
    (stop : store.stopAtFirstError = itinerary.stop) :
    ∃ (result : Except Failure α) (store' : Store), step.run ⟨itinerary.start, store⟩ =
        (result, ⟨itinerary.start ++ (itinerary.tell [] agenda).calls, store'⟩) ∧
      match result with
      | .ok value => holds value
      | .error _ => itinerary.Halted (itinerary.tell [] agenda) := by
  obtain ⟨result, store', run, _, final⟩ := arrives store stop
  rw [show Chronicle.calls ([] : Chronicle δ τ) = [] from rfl, List.append_nil] at run
  refine ⟨result, store', run, ?_⟩
  cases result with
  | ok value => exact final.2
  | error failure => exact final

theorem Arrives.bind {told : Chronicle δ τ} {agenda more : List Place} {step : Action δ τ α}
    {next : α → Action δ τ β} {holds : α → Prop} {holds' : β → Prop}
    (first : itinerary.Arrives told agenda step holds)
    (rest : ∀ value, ¬ itinerary.Halted (itinerary.tell told agenda) → holds value →
      itinerary.Arrives (itinerary.tell told agenda) more (next value) holds') :
    itinerary.Arrives told (agenda ++ more) (step >>= next) holds' := by
  intro store stop
  obtain ⟨result, store', run, stop', final⟩ := first store stop
  rw [tell_append]
  cases result with
  | error failure =>
    rw [itinerary.tell_of_halted final]
    exact ⟨.error failure, store', Step.run_bind_error run, stop', final⟩
  | ok value =>
    obtain ⟨last, store'', runNext, stop'', final'⟩ := rest value final.1 final.2 store' stop'
    exact ⟨last, store'', (Step.run_bind_ok run).trans runNext, stop'', final'⟩

theorem Arrives.map {told : Chronicle δ τ} {agenda : List Place} {step : Action δ τ α}
    {f : α → β} {holds : α → Prop} {holds' : β → Prop}
    (arrives : itinerary.Arrives told agenda step holds)
    (carries : ∀ value, holds value → holds' (f value)) :
    itinerary.Arrives told agenda (step >>= fun value => Pure.pure (f value)) holds' := by
  rw [← List.append_nil agenda]
  exact arrives.bind fun value free held => Arrives.pure free (carries value held)

/-- A progress line opens a stage. -/
theorem Arrives.emit {told : Chronicle δ τ} (free : ¬ itinerary.Halted told) (stage : Nat) :
    itinerary.Arrives told [.opening stage] (itinerary.pipeline.emit (itinerary.line stage))
      fun _ => True := by
  have opened : itinerary.tell told [.opening stage] = told ++ [itinerary.entry told
      (.opening stage) (.emit itinerary.pipeline.log (itinerary.line stage))] := by
    simp [tell, advance, free, due]
  have uncharged : (itinerary.tell told [.opening stage]).charges = told.charges := by
    rw [opened, charges_append, Itinerary.entry, charges_opening, List.append_nil]
  intro store stop
  refine ⟨.ok (), store, ?_, stop, ?_, trivial⟩
  · rw [opened, calls_append, calls_singleton, ← List.append_assoc]
    rfl
  · rw [Halted, uncharged]
    exact free

/-- One slot of a batch: a full slot whose input fails is emptied, unless that halts the run. -/
theorem Arrives.trySlot {told : Chronicle δ τ} {stage input step count : Nat}
    {work : α → Action δ τ β} {shows : Nat → α → List (Reply δ τ) → Prop}
    {shows' : Nat → β → List (Reply δ τ) → Prop} {slot : Option α}
    (tells : ∀ value answered, shows input value answered → answered.length = step →
      itinerary.Tells stage input count answered (work value) (shows' input))
    (free : ¬ itinerary.Halted told) (stands : itinerary.Stands told input step shows slot) :
    itinerary.Arrives told (visits stage input step count) (Batch.trySlot work slot)
      (itinerary.Stands (itinerary.tell told (visits stage input step count)) input
        (step + count) shows') := by
  cases slot with
  | none =>
    have passed : itinerary.tell told (visits stage input step count) = told := by
      rcases stands with ⟨behind, _⟩ | ⟨silent, unasked, _⟩
      · exact tell_visits_of_behind behind
      · exact tell_visits_of_unasked silent unasked
    intro store stop
    rw [passed]
    refine ⟨.ok none, store, rfl, stop, free, ?_⟩
    rcases stands with ⟨behind, charged⟩ | unasked
    · exact .inl ⟨by omega, charged⟩
    · exact .inr unasked
  | some value =>
    obtain ⟨shown, counted, uncharged⟩ := stands
    intro store stop
    obtain ⟨result, store', run, stop', final⟩ :=
      tells value _ shown counted told store free rfl stop
    rw [counted] at run final
    cases result with
    | ok output =>
      obtain ⟨shown', counted', same⟩ := final
      refine ⟨.ok (some output), store', Step.run_attempt_of_ok run, stop', ?_, shown', counted',
        ?_⟩
      · rw [Halted, same]
        exact free
      · rw [chargeCount, same]
        exact uncharged
    | error failure =>
      obtain ⟨behind, charged⟩ := final
      have someCharge : (itinerary.tell told (visits stage input step count)).charges ≠ [] := by
        simp [charged]
      cases policy : itinerary.stop with
      | true =>
        rw [policy] at stop'
        exact ⟨.error failure, store', Step.run_attempt_of_stop run stop', stop', policy,
          someCharge⟩
      | false =>
        rw [policy] at stop'
        refine ⟨.ok none, _, Step.run_attempt_of_keep run stop', stop', ?_, .inl ⟨behind, ?_⟩⟩
        · simp [Halted, policy]
        · rw [chargeCount, charged, List.map_append, List.count_append, ← chargeCount, uncharged]
          simp

/-- The slots of a batch, one after the other. -/
theorem Arrives.mapM {stage step count : Nat} {work : α → Action δ τ β}
    {shows : Nat → α → List (Reply δ τ) → Prop} {shows' : Nat → β → List (Reply δ τ) → Prop}
    (tells : ∀ input value answered, shows input value answered → answered.length = step →
      itinerary.Tells stage input count answered (work value) (shows' input))
    (slots : List (Option α)) {told : Chronicle δ τ} {first : Nat} (free : ¬ itinerary.Halted told)
    (stand : ∀ (index : Nat) (slot : Option α), slots[index]? = some slot →
      itinerary.Stands told (first + index) step shows slot) :
    itinerary.Arrives told (stageVisits stage step count first slots.length)
      (slots.mapM (Batch.trySlot work)) fun slots' => slots'.length = slots.length ∧
        ∀ (index : Nat) (slot : Option β), slots'[index]? = some slot →
          itinerary.Stands
            (itinerary.tell told (stageVisits stage step count first slots.length))
            (first + index) (step + count) shows' slot := by
  induction slots generalizing told first with
  | nil =>
    rw [List.mapM_nil]
    exact Arrives.pure free ⟨rfl, by simp⟩
  | cons slot slots ih =>
    rw [List.mapM_cons, List.length_cons, stageVisits_succ]
    refine (Arrives.trySlot (tells first) free (stand 0 slot rfl)).bind fun slot' free' head => ?_
    have others : ∀ index slot, slots[index]? = some slot →
        itinerary.Stands (itinerary.tell told (visits stage first step count))
          (first + 1 + index) step shows slot := by
      intro index slot found
      have before := stand (index + 1) slot (by simpa using found)
      rw [show first + (index + 1) = first + 1 + index by omega] at before
      refine before.congr (itinerary.tell_frame told fun place member about => ?_)
      obtain ⟨now, _, _, rfl⟩ := mem_visits member
      simp only [Place.input?, Option.some.injEq] at about
      omega
    have later := ih free' others
    rw [← tell_append] at later
    refine later.map fun slots' held => ⟨?_, ?_⟩
    · rw [List.length_cons, held.1]
    · intro index slot found
      cases index with
      | zero =>
        cases found
        refine head.congr ?_
        rw [tell_append]
        refine itinerary.tell_frame _ fun place member about => ?_
        obtain ⟨input, after, _, visited⟩ := mem_stageVisits member
        obtain ⟨now, _, _, rfl⟩ := mem_visits visited
        simp only [Place.input?, Option.some.injEq] at about
        omega
      | succ index =>
        rw [show first + (index + 1) = first + 1 + index by omega]
        exact held.2 index slot (by simpa using found)

theorem Arrives.tryMap {told : Chronicle δ τ} {stage step count size : Nat}
    {work : α → Action δ τ β} {shows : Nat → α → List (Reply δ τ) → Prop}
    {shows' : Nat → β → List (Reply δ τ) → Prop} {batch : Batch α}
    (tells : ∀ input value answered, shows input value answered → answered.length = step →
      itinerary.Tells stage input count answered (work value) (shows' input))
    (free : ¬ itinerary.Halted told) (aligned : itinerary.Aligned told step shows size batch) :
    itinerary.Arrives told (stageVisits stage step count 0 size) (batch.tryMap work)
      (itinerary.Aligned (itinerary.tell told (stageVisits stage step count 0 size))
        (step + count) shows' size) := by
  obtain ⟨rfl, stand⟩ := aligned
  have slots := Arrives.mapM tells batch.slots free fun index slot found => by
    rw [Nat.zero_add]
    exact stand index slot found
  refine slots.map fun slots' held => ⟨held.1, fun index slot found => ?_⟩
  rw [← Nat.zero_add index]
  exact held.2 index slot found

/-- A stage is opened and taken over the batch that the stages before it gave. -/
theorem Arrives.stage {told : Chronicle δ τ} {agenda : List Place} {stage step count size : Nat}
    {line : String} {action : Action δ τ (Batch α)} {work : α → Action δ τ β}
    {shows : Nat → α → List (Reply δ τ) → Prop} {shows' : Nat → β → List (Reply δ τ) → Prop}
    (arrives : itinerary.Arrives told agenda action
      (itinerary.Aligned (itinerary.tell told agenda) step shows size))
    (opened : itinerary.line stage = line)
    (tells : ∀ input value answered, shows input value answered → answered.length = step →
      itinerary.Tells stage input count answered (work value) (shows' input)) :
    itinerary.Arrives told (agenda ++ stagePlaces stage step count size)
      (action >>= fun batch => itinerary.pipeline.emit line >>= fun _ => batch.tryMap work)
      (itinerary.Aligned (itinerary.tell told (agenda ++ stagePlaces stage step count size))
        (step + count) shows' size) := by
  rw [tell_append]
  refine arrives.bind fun batch free aligned => ?_
  rw [stagePlaces, ← List.singleton_append, tell_append, ← opened]
  refine (Arrives.emit free stage).bind fun _ free' _ => Arrives.tryMap tells free' ?_
  refine ⟨aligned.1, fun index slot found => (aligned.2 index slot found).congr ?_⟩
  refine itinerary.tell_frame _ fun place member about => ?_
  rw [List.mem_singleton.mp member] at about
  cases about

end Itinerary

end StagedBuild.Pipeline
