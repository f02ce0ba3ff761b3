import StagedBuild.Proofs.Following
import StagedBuild.Proofs.WriteLoop

/-!
# The itinerary of an operation

Which call an input gets next follows from the answers it has got (`inputRoute`). With the places
of each stage this gives every operation its itinerary, and the operations follow theirs
(`Itinerary.Guides.arrives_decode` and those after it, `Itinerary.arrives_applyRound`).
-/

namespace StagedBuild.Pipeline

variable {δ τ α : Type}

/-- The next call for an input. Every call but the reading takes what an earlier call for the same
input gave. -/
def inputRoute (single : Bool) (path : String) : List (Reply δ τ) → Option (Call δ τ)
  | [] => some (.read path)
  | [.text dump] => some (.decode dump)
  | [_, .decoded tree] => some (.translate tree single)
  | [_, _, .tree _] => some .refresh
  | [_, _, .tree tree, _] => some (.runRound .first tree)
  | [_, _, _, _, .tree tree] => some (.runRound .second tree)
  | [_, _, _, _, _, .tree tree] => some (.generate tree)
  | _ => none

/-- The next call for an input whose source is written in the end. -/
def writeRoute (language : Target) (outputDir : String) (single : Bool) (path : String) :
    List (Reply δ τ) → Option (Call δ τ)
  | [_, _, _, _, _, _, .text source] =>
    some (.write (ArtifactPath.source path outputDir language) source)
  | answers => inputRoute single path answers

/-- The next call for a tree that goes through one round; an empty slot has none. -/
def roundRoute (round : PassRound) (slot : Option τ) : List (Reply δ τ) → Option (Call δ τ)
  | [] => slot.map fun _ => .refresh
  | [_] => slot.map (.runRound round)
  | _ => none

/-- The lines that open the stages of generation. -/
def stageLine (language : Target) : Nat → String
  | 0 => "\t- Decoding AST dumps..."
  | 1 => "\t- Translating decoded trees..."
  | 2 => "\t- Running both rounds of passes..."
  | _ => s!"\t- Generating {language.displayName}..."

def decodePlaces (size : Nat) : List Place := stagePlaces 0 0 2 size

def translatePlaces (size : Nat) : List Place := decodePlaces size ++ stagePlaces 1 2 1 size

def firstRoundPlaces (size : Nat) : List Place := translatePlaces size ++ stagePlaces 2 3 2 size

def bothRoundsPlaces (size : Nat) : List Place := translatePlaces size ++ stagePlaces 2 3 3 size

def generatePlaces (size : Nat) : List Place := bothRoundsPlaces size ++ stagePlaces 3 6 1 size

example : generatePlaces 1 = [.opening 0, .visit 0 0 0, .visit 0 0 1, .opening 1, .visit 1 0 2,
    .opening 2, .visit 2 0 3, .visit 2 0 4, .visit 2 0 5, .opening 3, .visit 3 0 6] := by
  decide

/-- No line announces that the sources are written. -/
def writePlaces (size : Nat) : List Place := generatePlaces size ++ stageVisits 4 7 1 0 size

/-- The next call for an input of an operation. -/
def Operation.route (language : Target) :
    Operation τ → Nat → List (Reply δ τ) → Option (Call δ τ)
  | .decode inputs, input, answers | .translate inputs, input, answers
  | .firstRound inputs, input, answers | .bothRounds inputs, input, answers
  | .generate inputs, input, answers =>
    inputs[input]?.bind fun path => inputRoute (isSingle inputs) path answers
  | .applyRound round trees, input, answers => roundRoute round (trees.get? input) answers
  | .compile inputs outputDir, input, answers | .run inputs outputDir _, input, answers =>
    inputs[input]?.bind fun path => writeRoute language outputDir (isSingle inputs) path answers

/-- The lines that open the stages of an operation. -/
def Operation.line (language : Target) : Operation τ → Nat → String
  | .firstRound _, 2 => s!"\t- Running {PassRound.first.name} round of passes..."
  | .applyRound round _, _ => s!"\t- Running {round.name} round of passes..."
  | _, stage => stageLine language stage

/-- The places that an operation can come to, in order. -/
def Operation.agenda : Operation τ → List Place
  | .decode inputs => decodePlaces inputs.length
  | .translate inputs => translatePlaces inputs.length
  | .firstRound inputs => firstRoundPlaces inputs.length
  | .bothRounds inputs => bothRoundsPlaces inputs.length
  | .applyRound _ trees => stagePlaces 0 0 2 trees.size
  | .generate inputs => generatePlaces inputs.length
  | .compile inputs _ => writePlaces inputs.length
  | .run inputs _ _ => writePlaces inputs.length

/-- How an operation asks when it starts after a history under a policy. -/
def Operation.itinerary (operation : Operation τ) (pipeline : Pipeline δ τ)
    (start : History δ τ) (stop : Bool) : Itinerary δ τ where
  pipeline := pipeline
  start := start
  stop := stop
  line := operation.line pipeline.bridge.language
  route := operation.route pipeline.bridge.language

theorem writeRoute_of_short (language : Target) (outputDir : String) (single : Bool)
    (path : String) {answers : List (Reply δ τ)} (short : answers.length < 7) :
    writeRoute language outputDir single path answers = inputRoute single path answers := by
  unfold writeRoute
  split
  · simp at short
  · rfl

/-- Generation takes seven calls. -/
theorem inputRoute_of_long (single : Bool) (path : String) {answers : List (Reply δ τ)}
    (long : 7 ≤ answers.length) : (inputRoute single path answers : Option (Call δ τ)) = none := by
  unfold inputRoute
  split
  all_goals first | rfl | simp at long

/-- A generated source is written. -/
theorem writeRoute_concat (language : Target) (outputDir : String) (single : Bool) (path : String)
    {earlier : List (Reply δ τ)} (counted : earlier.length = 6) (source : String) :
    writeRoute language outputDir single path (earlier ++ [.text source]) =
      some (.write (ArtifactPath.source path outputDir language) source) := by
  match earlier, counted with
  | [_, _, _, _, _, _], _ => rfl

/-- What follows generation is a write. -/
theorem writeRoute_of_long {language : Target} {outputDir : String} {single : Bool}
    {path : String} {answers : List (Reply δ τ)} {call : Call δ τ} (long : 7 ≤ answers.length)
    (next : writeRoute language outputDir single path answers = some call) :
    ∃ target contents, call = .write target contents := by
  unfold writeRoute at next
  split at next
  · cases next
    exact ⟨_, _, rfl⟩
  · rw [inputRoute_of_long single path long] at next
    cases next

theorem roundRoute_none (round : PassRound) (answers : List (Reply δ τ)) :
    roundRoute round none answers = none := by
  unfold roundRoute
  split <;> rfl

theorem roundRoute_nil_eq_none (round : PassRound) (slot : Option τ) :
    (roundRoute round slot [] : Option (Call δ τ)) = none ↔ slot = none := by
  rw [roundRoute, Option.map_eq_none_iff]

namespace Itinerary

/-- The value of a slot is what the last of the answers gave, and the input is one of a run. -/
def Last (inputs : List String) (wrap : α → Reply δ τ) (input : Nat) (value : α)
    (answers : List (Reply δ τ)) : Prop :=
  (∃ path, inputs[input]? = some path) ∧ ∃ earlier, answers = earlier ++ [wrap value]

/-- An itinerary that takes the inputs through the stages of generation. -/
structure Guides (itinerary : Itinerary δ τ) (inputs : List String) : Prop where
  decodeLine : itinerary.line 0 = "\t- Decoding AST dumps..."
  translateLine : itinerary.line 1 = "\t- Translating decoded trees..."
  route : ∀ input path answers, inputs[input]? = some path → answers.length < 7 →
    itinerary.route input answers = inputRoute (isSingle inputs) path answers
  outside : ∀ input answers, inputs[input]? = none → itinerary.route input answers = none

variable {itinerary : Itinerary δ τ} {inputs : List String}

theorem guides_of_inputRoute (decodeLine : itinerary.line 0 = "\t- Decoding AST dumps...")
    (translateLine : itinerary.line 1 = "\t- Translating decoded trees...")
    (route : ∀ input answers, itinerary.route input answers =
      inputs[input]?.bind fun path => inputRoute (isSingle inputs) path answers) :
    itinerary.Guides inputs := by
  refine ⟨decodeLine, translateLine, fun input path answers found _ => ?_,
    fun input answers missing => ?_⟩
  · rw [route, found, Option.bind_some]
  · rw [route, missing, Option.bind_none]

/-- Writing comes after the stages of generation. -/
theorem guides_of_writeRoute {outputDir : String} {language : Target}
    (decodeLine : itinerary.line 0 = "\t- Decoding AST dumps...")
    (translateLine : itinerary.line 1 = "\t- Translating decoded trees...")
    (route : ∀ input answers, itinerary.route input answers = inputs[input]?.bind fun path =>
      writeRoute language outputDir (isSingle inputs) path answers) :
    itinerary.Guides inputs := by
  refine ⟨decodeLine, translateLine, fun input path answers found short => ?_,
    fun input answers missing => ?_⟩
  · rw [route, found, Option.bind_some, writeRoute_of_short _ _ _ _ short]
  · rw [route, missing, Option.bind_none]

theorem Guides.leads (guides : itinerary.Guides inputs) {input : Nat} {path : String}
    {answers : List (Reply δ τ)} {call : Call δ τ} (found : inputs[input]? = some path)
    (next : inputRoute (isSingle inputs) path answers = some call) (short : answers.length < 7) :
    itinerary.route input answers = some call :=
  (guides.route input path answers found short).trans next

theorem Guides.arrives_decode (guides : itinerary.Guides inputs) (free : ¬ itinerary.Halted []) :
    itinerary.Arrives [] (decodePlaces inputs.length) (itinerary.pipeline.decode inputs)
      (itinerary.Aligned (itinerary.tell [] (decodePlaces inputs.length)) 2
        (Last inputs .decoded) inputs.length) := by
  have start : itinerary.Arrives [] [] (pure (Batch.ofList inputs))
      (itinerary.Aligned [] 0 (fun input path _ => inputs[input]? = some path) inputs.length) := by
    refine Arrives.pure free ⟨by simp, fun index slot found => ?_⟩
    rw [Batch.slots_ofList, List.getElem?_map, Option.map_eq_some_iff] at found
    obtain ⟨path, found, rfl⟩ := found
    exact ⟨found, rfl, rfl⟩
  refine Arrives.stage start guides.decodeLine fun input path answered found counted => ?_
  obtain rfl := List.eq_nil_of_length_eq_zero counted
  have reads : itinerary.route input [] = some (.read path) := guides.leads found rfl (by simp)
  refine Tells.bind (itinerary.pipeline.makes_read path) reads fun dump => ?_
  have decodes : itinerary.route input [.text dump] = some (.decode dump) :=
    guides.leads found (by simp [inputRoute]) (by simp)
  exact Tells.single (itinerary.pipeline.makes_decode dump) decodes fun tree =>
    ⟨⟨path, found⟩, [.text dump], rfl⟩

theorem Guides.arrives_translate (guides : itinerary.Guides inputs)
    (free : ¬ itinerary.Halted []) :
    itinerary.Arrives [] (translatePlaces inputs.length) (itinerary.pipeline.translate inputs)
      (itinerary.Aligned (itinerary.tell [] (translatePlaces inputs.length)) 3
        (Last inputs .tree) inputs.length) := by
  refine Arrives.stage (guides.arrives_decode free) guides.translateLine
    fun input tree answered shown counted => ?_
  obtain ⟨⟨path, found⟩, earlier, rfl⟩ := shown
  obtain ⟨dump, rfl⟩ : ∃ dump, earlier = [dump] :=
    List.length_eq_one_iff.mp (by simpa using counted)
  have translates : itinerary.route input [dump, .decoded tree] =
      some (.translate tree (isSingle inputs)) :=
    guides.leads found (by simp [inputRoute]) (by simp)
  exact Tells.single (itinerary.pipeline.makes_translateTree _ tree) translates fun tree' =>
    ⟨⟨path, found⟩, [dump, .decoded tree], rfl⟩

/-- The library is made anew, then the first round runs. -/
theorem Guides.tells_firstRound (guides : itinerary.Guides inputs) (input : Nat) (tree : τ)
    (answered : List (Reply δ τ)) (shown : Last inputs .tree input tree answered)
    (counted : answered.length = 3) :
    itinerary.Tells 2 input 2 answered
      (itinerary.pipeline.refreshLibrary >>= fun _ => itinerary.pipeline.runRound .first tree)
      (Last inputs .tree input) := by
  obtain ⟨⟨path, found⟩, earlier, rfl⟩ := shown
  obtain ⟨dump, decoded, rfl⟩ : ∃ dump decoded, earlier = [dump, decoded] :=
    List.length_eq_two.mp (by simpa using counted)
  have refreshes : itinerary.route input [dump, decoded, .tree tree] = some .refresh :=
    guides.leads found (by simp [inputRoute]) (by simp)
  have rounds : itinerary.route input [dump, decoded, .tree tree, .done] =
      some (.runRound .first tree) := guides.leads found (by simp [inputRoute]) (by simp)
  refine Tells.bind itinerary.pipeline.makes_refreshLibrary refreshes fun _ => ?_
  exact Tells.single (itinerary.pipeline.makes_runRound .first tree) rounds fun changed =>
    ⟨⟨path, found⟩, [dump, decoded, .tree tree, .done], rfl⟩

/-- The library is made anew once, then both rounds run, the second on what the first gave. -/
theorem Guides.tells_bothRounds (guides : itinerary.Guides inputs) (input : Nat) (tree : τ)
    (answered : List (Reply δ τ)) (shown : Last inputs .tree input tree answered)
    (counted : answered.length = 3) :
    itinerary.Tells 2 input 3 answered
      (itinerary.pipeline.refreshLibrary >>= fun _ => itinerary.pipeline.runRound .first tree >>=
        itinerary.pipeline.runRound .second)
      (Last inputs .tree input) := by
  obtain ⟨⟨path, found⟩, earlier, rfl⟩ := shown
  obtain ⟨dump, decoded, rfl⟩ : ∃ dump decoded, earlier = [dump, decoded] :=
    List.length_eq_two.mp (by simpa using counted)
  have refreshes : itinerary.route input [dump, decoded, .tree tree] = some .refresh :=
    guides.leads found (by simp [inputRoute]) (by simp)
  have first : itinerary.route input [dump, decoded, .tree tree, .done] =
      some (.runRound .first tree) := guides.leads found (by simp [inputRoute]) (by simp)
  refine Tells.bind itinerary.pipeline.makes_refreshLibrary refreshes fun _ => ?_
  refine Tells.bind (itinerary.pipeline.makes_runRound .first tree) first fun changed => ?_
  have second : itinerary.route input [dump, decoded, .tree tree, .done, .tree changed] =
      some (.runRound .second changed) := guides.leads found (by simp [inputRoute]) (by simp)
  exact Tells.single (itinerary.pipeline.makes_runRound .second changed) second fun last =>
    ⟨⟨path, found⟩, [dump, decoded, .tree tree, .done, .tree changed], rfl⟩

theorem Guides.arrives_firstRound (guides : itinerary.Guides inputs) (free : ¬ itinerary.Halted [])
    (line : itinerary.line 2 = s!"\t- Running {PassRound.first.name} round of passes...") :
    itinerary.Arrives [] (firstRoundPlaces inputs.length) (itinerary.pipeline.runFirstRound inputs)
      (itinerary.Aligned (itinerary.tell [] (firstRoundPlaces inputs.length)) 5
        (Last inputs .tree) inputs.length) :=
  Arrives.stage (guides.arrives_translate free) line guides.tells_firstRound

theorem Guides.arrives_bothRounds (guides : itinerary.Guides inputs) (free : ¬ itinerary.Halted [])
    (line : itinerary.line 2 = "\t- Running both rounds of passes...") :
    itinerary.Arrives [] (bothRoundsPlaces inputs.length) (itinerary.pipeline.runBothRounds inputs)
      (itinerary.Aligned (itinerary.tell [] (bothRoundsPlaces inputs.length)) 6
        (Last inputs .tree) inputs.length) :=
  Arrives.stage (guides.arrives_translate free) line guides.tells_bothRounds

theorem Guides.arrives_generate (guides : itinerary.Guides inputs) (free : ¬ itinerary.Halted [])
    (changeLine : itinerary.line 2 = "\t- Running both rounds of passes...")
    (line : itinerary.line 3 =
      s!"\t- Generating {itinerary.pipeline.bridge.language.displayName}...") :
    itinerary.Arrives [] (generatePlaces inputs.length) (itinerary.pipeline.generate inputs)
      (itinerary.Aligned (itinerary.tell [] (generatePlaces inputs.length)) 7
        (Last inputs .text) inputs.length) := by
  refine Arrives.stage (guides.arrives_bothRounds free changeLine) line
    fun input tree answered shown counted => ?_
  obtain ⟨⟨path, found⟩, earlier, rfl⟩ := shown
  have next : inputRoute (isSingle inputs) path (earlier ++ [.tree tree]) =
      some (.generate tree) := by
    match earlier, (by simpa using counted : earlier.length = 5) with
    | [_, _, _, _, _], _ => simp [inputRoute]
  have generates : itinerary.route input (earlier ++ [.tree tree]) = some (.generate tree) :=
    guides.leads found next (by omega)
  exact Tells.single (itinerary.pipeline.makes_generateSource tree) generates fun source =>
    ⟨⟨path, found⟩, earlier ++ [.tree tree], rfl⟩

/-- Beside their inputs the slots show the same. -/
theorem Aligned.withInputs {sources : Batch String} {told : Chronicle δ τ}
    (aligned : itinerary.Aligned told 7 (Last inputs .text) inputs.length sources) :
    itinerary.Aligned told 7 (fun input (pair : String × String) answers =>
      inputs[input]? = some pair.1 ∧ ∃ earlier, answers = earlier ++ [.text pair.2])
      inputs.length (sources.withInputs inputs) := by
  obtain ⟨sized, stand⟩ := aligned
  refine ⟨?_, fun index slot found => ?_⟩
  · simp [Batch.withInputs, sized]
  · obtain ⟨path, own, named, filled, rfl⟩ := List.getElem?_zipWith_eq_some.mp found
    have stands := stand index own filled
    cases own with
    | none => exact stands
    | some source =>
      obtain ⟨⟨_, earlier, shown⟩, counted, uncharged⟩ := stands
      exact ⟨⟨named, earlier, shown⟩, counted, uncharged⟩

/-- An input whose source was generated gets one more call, which writes it. -/
theorem arrives_write {outputDir : String}
    {sources : Batch String} {told : Chronicle δ τ} (free : ¬ itinerary.Halted told)
    (writes : ∀ input path answers, inputs[input]? = some path → answers.length = 7 →
      itinerary.route input answers = writeRoute itinerary.pipeline.bridge.language outputDir
        (isSingle inputs) path answers)
    (aligned : itinerary.Aligned told 7 (Last inputs .text) inputs.length sources) :
    itinerary.Arrives told (stageVisits 4 7 1 0 inputs.length)
      (itinerary.pipeline.writeStage inputs outputDir sources)
      (itinerary.Aligned (itinerary.tell told (stageVisits 4 7 1 0 inputs.length)) 8
        (fun _ _ _ => True) inputs.length) := by
  refine Arrives.tryMap (fun input pair answered shown counted => ?_) free aligned.withInputs
  obtain ⟨path, source⟩ := pair
  obtain ⟨found, earlier, rfl⟩ := shown
  have next : itinerary.route input (earlier ++ [.text source]) = some (.write
      (ArtifactPath.source path outputDir itinerary.pipeline.bridge.language) source) := by
    rw [writes input path _ found counted]
    exact writeRoute_concat _ _ _ path (by simpa using counted) source
  exact Tells.bind (itinerary.pipeline.makes_writeSource _ source) next fun _ => Tells.pure trivial

theorem arrives_applyRound (itinerary : Itinerary δ τ) (round : PassRound) (trees : Batch τ)
    (free : ¬ itinerary.Halted [])
    (line : itinerary.line 0 = s!"\t- Running {round.name} round of passes...")
    (route : ∀ input answers,
      itinerary.route input answers = roundRoute round (trees.get? input) answers) :
    itinerary.Arrives [] (stagePlaces 0 0 2 trees.size) (itinerary.pipeline.applyRound round trees)
      (itinerary.Aligned (itinerary.tell [] (stagePlaces 0 0 2 trees.size)) 2
        (fun _ _ _ => True) trees.size) := by
  have start : itinerary.Arrives [] [] (pure trees)
      (itinerary.Aligned [] 0 (fun input tree _ => trees.get? input = some tree) trees.size) := by
    refine Arrives.pure free ⟨rfl, fun index slot found => ?_⟩
    have shown : trees.get? index = slot := by rw [Batch.get?, found, Option.join_some]
    cases slot with
    | none => exact .inr ⟨rfl, by rw [route, shown, roundRoute_none], rfl⟩
    | some tree => exact ⟨shown, rfl, rfl⟩
  refine Arrives.stage start line fun input tree answered shown counted => ?_
  obtain rfl := List.eq_nil_of_length_eq_zero counted
  have refreshes : itinerary.route input [] = some .refresh := by rw [route, shown]; rfl
  refine Tells.bind itinerary.pipeline.makes_refreshLibrary refreshes fun _ => ?_
  have rounds : itinerary.route input [.done] = some (.runRound round tree) := by
    rw [route, shown]
    rfl
  exact Tells.single (itinerary.pipeline.makes_runRound round tree) rounds fun _ => trivial

end Itinerary

end StagedBuild.Pipeline
