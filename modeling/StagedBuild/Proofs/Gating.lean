import StagedBuild.CommandLine.Host
import StagedBuild.Proofs.Hosting

/-!
# When a command starts its tool

A compile starts the compiler, and a run the runtime, exactly if everything it needs is there; it
starts it once, ends well exactly if the tool did, and passes on what the tool printed
(`compile_run_gated`). A missing source stops a compile before anything was made or shown.

* `Host.LooksOnly`: looking at files changes nothing. A workspace is such a host.
* `Loads`: what loading a configuration comes to.
* `CompileCourse`, `RunCourse`: the ways a command goes, by where it stops.
* `ToolCourse`: what both have in common, and `Gated`: what follows from it.
-/

namespace StagedBuild.CommandLine

variable {ω : Type} {host : Host (StateM ω)}

namespace Host

/-- Looking at a file and reading it leave the world as it is. -/
structure LooksOnly (host : Host (StateM ω)) : Prop where
  isPresent : ∀ path world, ((host.isPresent path).run world).2 = world
  readText : ∀ path world, ((host.readText path).run world).2 = world

/-- In this world the path can be accessed. -/
def sees (host : Host (StateM ω)) (world : ω) (path : String) : Bool :=
  ((host.isPresent path).run world).1

/-- What reading the file gives in this world. -/
def reads (host : Host (StateM ω)) (world : ω) (path : String) : Except IoCause String :=
  ((host.readText path).run world).1

/-- Whether the directory can be made in this world. -/
def makes (host : Host (StateM ω)) (world : ω) (path : String) : Except IoCause Unit :=
  ((host.makeDirectories path).run world).1

namespace LooksOnly

theorem run_isPresent (looks : host.LooksOnly) (path : String) (world : ω) :
    (host.isPresent path).run world = (host.sees world path, world) :=
  Prod.ext rfl (looks.isPresent path world)

theorem run_readText (looks : host.LooksOnly) (path : String) (world : ω) :
    (host.readText path).run world = (host.reads world path, world) :=
  Prod.ext rfl (looks.readText path world)

end LooksOnly

end Host

/-- What loading a configuration comes to: there is no file, which stands for the defaults, or it
cannot be read, or it holds no configuration, or it holds one. -/
inductive Loads (host : Host (StateM ω)) (world : ω) (path : String) :
    Except ConfigFileError ToolchainConfig → Prop where
  | absent (unseen : host.sees world path = false) : Loads host world path (.ok {})
  | unreadable {cause : IoCause} (seen : host.sees world path = true)
      (read : host.reads world path = .error cause) :
      Loads host world path (.error (.unreadable path cause))
  | refused {text : String} {error : ConfigError} (seen : host.sees world path = true)
      (read : host.reads world path = .ok text) (parsed : ToolchainConfig.parse text = .error error) :
      Loads host world path (.error (.refused path error))
  | loaded {text : String} {config : ToolchainConfig} (seen : host.sees world path = true)
      (read : host.reads world path = .ok text) (parsed : ToolchainConfig.parse text = .ok config) :
      Loads host world path (.ok config)

namespace Loads

variable {world : ω} {path : String}

/-- It comes to one thing only. -/
theorem unique {a b : Except ConfigFileError ToolchainConfig} (first : Loads host world path a)
    (second : Loads host world path b) : a = b := by
  cases first <;> cases second <;> simp_all

theorem config_unique {a b : ToolchainConfig} (first : Loads host world path (.ok a))
    (second : Loads host world path (.ok b)) : a = b :=
  Except.ok.inj (first.unique second)

theorem not_ok {error : ConfigFileError} (refused : Loads host world path (.error error))
    (config : ToolchainConfig) : ¬Loads host world path (.ok config) := by
  intro loaded
  cases refused.unique loaded

end Loads

/-- After an action that ends like this, the next one goes on from there. -/
theorem run_bind_of {α β : Type} {action : StateM ω α} {world between : ω} {answer : α}
    (first : action.run world = (answer, between)) (next : α → StateM ω β) :
    (action >>= next).run world = (next answer).run between := by
  change (next (action.run world).1).run (action.run world).2 = _
  rw [first]

/-- `loadConfig` gives what the configuration comes to, and leaves the world as it is. -/
theorem loads_loadConfig (looks : host.LooksOnly) (path : String) (world : ω) :
    ∃ found, Loads host world path found ∧
      (loadConfig host path).run world = (found, world) := by
  have looked := looks.run_isPresent path world
  cases seen : host.sees world path with
  | false =>
    refine ⟨.ok {}, .absent seen, ?_⟩
    rw [seen] at looked
    rw [loadConfig, run_bind_of looked]
    rfl
  | true =>
    refine ⟨ToolchainConfig.ofFile path (host.reads world path), ?_, ?_⟩
    · cases read : host.reads world path with
      | error cause => exact .unreadable seen read
      | ok text =>
        cases parsed : ToolchainConfig.parse text with
        | error error =>
          rw [ToolchainConfig.ofFile, parsed]
          exact .refused seen read parsed
        | ok config =>
          rw [ToolchainConfig.ofFile, parsed]
          exact .loaded seen read parsed
    · rw [seen] at looked
      rw [loadConfig, run_bind_of looked, if_pos rfl,
        run_bind_of (looks.run_readText path world)]
      rfl

/-- The first file that is not seen, and the world as it was. -/
theorem run_firstMissing (looks : host.LooksOnly) (files : List String) (world : ω) :
    (firstMissing host files).run world = (files.find? (!host.sees world ·), world) := by
  induction files with
  | nil => rfl
  | cons file rest ih =>
    have looked := looks.run_isPresent file world
    rw [firstMissing, run_bind_of looked, List.find?_cons]
    cases host.sees world file with
    | false => rfl
    | true => exact ih

/-- What a call starts and what comes of it. -/
def HostCall.start? : HostCall → Option (Invocation × Option ToolOutput)
  | .start invocation answer => some (invocation, answer)
  | .isPresent _ _ | .readText _ _ | .makeDirectories _ _ => none

/-- The starts that were asked for, each with what came of it: nothing if the tool cannot be
started. -/
def starts (calls : List HostCall) : List (Invocation × Option ToolOutput) :=
  calls.filterMap HostCall.start?

theorem starts_append (calls later : List HostCall) :
    starts (calls ++ later) = starts calls ++ starts later :=
  List.filterMap_append

/-- Looking starts nothing. -/
theorem starts_of_isLook {calls : List HostCall} (looked : ∀ call ∈ calls, call.IsLook) :
    starts calls = [] := by
  refine List.filterMap_eq_nil_iff.mpr fun call mem => ?_
  have look := looked call mem
  cases call with
  | isPresent path answer => rfl
  | readText path answer => rfl
  | makeDirectories path answer => exact look.elim
  | start invocation answer => exact look.elim

/-- How a compile goes, by where it stops: what it ends with, the world that it leaves and the
calls that it made. -/
inductive CompileCourse (host : Host (StateM ω)) (log : Log) (files : List String)
    (output path : String) (world : ω) : Outcome × ω → List HostCall → Prop where
  /-- The configuration does not load. -/
  | refused {error : ConfigFileError} {looked : List HostCall}
      (found : Loads host world path (.error error)) (looks : ∀ call ∈ looked, call.IsLook) :
      CompileCourse host log files output path world
        (⟨"", .reported error.context⟩, world) looked
  /-- A source is missing. -/
  | missing {config : ToolchainConfig} {file : String} {looked : List HostCall}
      (found : Loads host world path (.ok config))
      (first : files.find? (!host.sees world ·) = some file)
      (looks : ∀ call ∈ looked, call.IsLook) :
      CompileCourse host log files output path world
        (⟨"", .reported s!"cannot access '{file}'"⟩, world) looked
  /-- The output directory cannot be made. -/
  | unmade {config : ToolchainConfig} {cause : IoCause} {after : ω} {looked : List HostCall}
      (found : Loads host world path (.ok config))
      (seen : files.find? (!host.sees world ·) = none)
      (made : (host.makeDirectories output).run world = (.error cause, after))
      (looks : ∀ call ∈ looked, call.IsLook) :
      CompileCourse host log files output path world
        (⟨"", .reported s!"failed to create '{output}'"⟩, after)
        (looked ++ [.makeDirectories output (.error cause)])
  /-- The compiler is started. -/
  | started {config : ToolchainConfig} {between after : ω} {answer : Option ToolOutput}
      {looked : List HostCall} (found : Loads host world path (.ok config))
      (seen : files.find? (!host.sees world ·) = none)
      (made : (host.makeDirectories output).run world = (.ok (), between))
      (ended : (host.start (config.compileInvocation files output)).run between = (answer, after))
      (looks : ∀ call ∈ looked, call.IsLook) :
      CompileCourse host log files output path world
        (.ofTool (log.printed s!"\t- Compiling {config.language.displayName}...")
          config.compiler answer, after)
        (looked ++ [.makeDirectories output (.ok ()),
          .start (config.compileInvocation files output) answer])

theorem compile_course (looks : host.LooksOnly) (log : Log) (files : List String)
    (output path : String) (world : ω) :
    CompileCourse host log files output path world
      ((compile host log files output path).run world)
      (compileCalls host files output path world) := by
  -- what a stage answers tells both the rest of the compile and the rest of its calls, so each
  -- stage is rewritten in both before its answer is split
  obtain ⟨found, is, loaded⟩ := loads_loadConfig looks path world
  have early := isLook_loadCalls host path world
  rw [compileCalls, loaded, compile, run_bind_of loaded]
  cases found with
  | error error =>
    rw [configuredCalls, List.append_nil]
    exact .refused is early
  | ok config =>
    have checked := run_firstMissing looks files world
    have looked := List.forall_mem_append.mpr ⟨early, isLook_checkCalls host files world⟩
    dsimp only [configuredCalls]
    rw [run_bind_of checked, checked, ← List.append_assoc]
    cases first : files.find? (!host.sees world ·) with
    | some file =>
      rw [checkedCalls, List.append_nil]
      exact .missing is first looked
    | none =>
      dsimp only [checkedCalls]
      rcases made : (host.makeDirectories output).run world with ⟨_ | _, between⟩
      · rw [run_bind_of made]
        exact .unmade is first made looked
      · rw [run_bind_of made]
        exact .started is first made rfl looked

/-- How a run goes, by where it stops: what it ends with and the calls that it made. -/
inductive RunCourse (host : Host (StateM ω)) (log : Log) (output path : String)
    (arguments : List String) (world : ω) : Outcome → List HostCall → Prop where
  /-- The configuration does not load. -/
  | refused {error : ConfigFileError} {looked : List HostCall}
      (found : Loads host world path (.error error)) (looks : ∀ call ∈ looked, call.IsLook) :
      RunCourse host log output path arguments world ⟨"", .reported error.context⟩ looked
  /-- There is no archive. -/
  | missing {config : ToolchainConfig} {looked : List HostCall}
      (found : Loads host world path (.ok config))
      (unseen : host.sees world (ArtifactPath.archive output config.language) = false)
      (looks : ∀ call ∈ looked, call.IsLook) :
      RunCourse host log output path arguments world
        ⟨"", .reported ("no compiled archive at '" ++
          ArtifactPath.archive output config.language ++ "', run `wyvern compile` first")⟩ looked
  /-- The runtime is started. -/
  | started {config : ToolchainConfig} {looked : List HostCall}
      (found : Loads host world path (.ok config))
      (seen : host.sees world (ArtifactPath.archive output config.language) = true)
      (answer : Option ToolOutput) (looks : ∀ call ∈ looked, call.IsLook) :
      RunCourse host log output path arguments world
        (.ofTool (log.printed s!"\t- Running {config.language.displayName}...")
          config.runtime answer)
        (looked ++ [.start (config.runInvocation output arguments) answer])

theorem run_course (looks : host.LooksOnly) (log : Log) (output path : String)
    (arguments : List String) (world : ω) :
    RunCourse host log output path arguments world
      ((run host log output path arguments).run world).1
      (runCalls host output path arguments world) := by
  obtain ⟨found, is, loaded⟩ := loads_loadConfig looks path world
  have early := isLook_loadCalls host path world
  rw [runCalls, loaded, run, run_bind_of loaded]
  cases found with
  | error error =>
    rw [loadedCalls, List.append_nil]
    exact .refused is early
  | ok config =>
    let archive := ArtifactPath.archive output config.language
    have archived := looks.run_isPresent archive world
    have looked : ∀ answer, ∀ call ∈ loadCalls host path world ++ [.isPresent archive answer],
        call.IsLook :=
      fun answer => List.forall_mem_append.mpr ⟨early, List.forall_mem_singleton.mpr trivial⟩
    dsimp only [loadedCalls, archiveCalls]
    rw [run_bind_of archived, archived]
    cases seen : host.sees world archive with
    | false => exact .missing is seen (looked false)
    | true =>
      rw [List.append_cons]
      exact .started is seen _ (looked true)

/-- A command ends with status zero exactly if its tool was started and ended with status zero. -/
theorem status_ofTool_eq_zero_iff (shown program : String) (answer : Option ToolOutput) :
    (Outcome.ofTool shown program answer).status = 0 ↔
      ∃ output, answer = some output ∧ output.status = some 0 := by
  cases answer with
  | none =>
    constructor
    · exact fun zero => absurd zero (by decide : (1 : Int32) ≠ 0)
    · rintro ⟨output, ⟨⟩, -⟩
  | some output =>
    change output.status.getD 1 = 0 ↔ _
    simp only [Option.some.injEq, exists_eq_left']
    cases output.status with
    | none => decide
    | some status => simp

section

variable (ready : ToolchainConfig → Prop) (asked : ToolchainConfig → Invocation)
  (shown : ToolchainConfig → String)

/-- How a command goes that is to start one tool: what it needs is not there, and it starts nothing;
or it starts the tool and ends as that does. -/
inductive ToolCourse : Outcome → List (Invocation × Option ToolOutput) → Prop where
  | stopped {message : String} (unready : ∀ config, ¬ready config) :
      ToolCourse ⟨"", .reported message⟩ []
  | started {config : ToolchainConfig} (is : ready config) (answer : Option ToolOutput) :
      ToolCourse (.ofTool (shown config) (asked config).program answer) [(asked config, answer)]

/-- A command starts its tool once if all that it needs is there, else not at all. It ends with
status zero exactly if the tool was started and ended so. -/
structure Gated (outcome : Outcome) (started : List (Invocation × Option ToolOutput)) : Prop where
  once : started.length ≤ 1
  starts_iff : ∀ invocation, (∃ answer, (invocation, answer) ∈ started) ↔
    ∃ config, ready config ∧ invocation = asked config
  succeeds_iff : outcome.status = 0 ↔
    ∃ invocation output, (invocation, some output) ∈ started ∧ output.status = some 0
  /-- What the tool printed is passed on whatever its status. -/
  passesOn : ∀ config, ready config → ∀ invocation output, (invocation, some output) ∈ started →
    outcome = ⟨shown config ++ output.stdout, .finished (output.status.getD 1) output.stderr⟩
  /-- A tool that cannot be started is reported. -/
  reports : ∀ config, ready config → ∀ invocation, (invocation, none) ∈ started →
    outcome = ⟨shown config, .reported s!"failed to start '{invocation.program}'"⟩
  /-- A command that starts nothing shows nothing and reports an error. -/
  stops : started = [] → ∃ message, outcome = ⟨"", .reported message⟩

end

theorem ToolCourse.gated {ready : ToolchainConfig → Prop} {asked : ToolchainConfig → Invocation}
    {shown : ToolchainConfig → String} {outcome : Outcome}
    {started : List (Invocation × Option ToolOutput)}
    (course : ToolCourse ready asked shown outcome started)
    (unique : ∀ a b, ready a → ready b → a = b) : Gated ready asked shown outcome started := by
  cases course with
  | @stopped message unready =>
    exact {
      once := Nat.zero_le 1
      starts_iff := by
        intro invocation
        constructor
        · rintro ⟨answer, ⟨⟩⟩
        · rintro ⟨config, is, -⟩
          exact absurd is (unready config)
      succeeds_iff := by
        constructor
        · exact fun zero => absurd zero (by decide : (1 : Int32) ≠ 0)
        · rintro ⟨invocation, output, ⟨⟩, -⟩
      passesOn := fun config is => absurd is (unready config)
      reports := fun config is => absurd is (unready config)
      stops := fun _ => ⟨message, rfl⟩ }
  | @started config is answer =>
    have same : ∀ other, ready other → other = config := fun other also => unique _ _ also is
    exact {
      once := Nat.le_refl 1
      starts_iff := by
        intro invocation
        constructor
        · rintro ⟨reply, mem⟩
          exact ⟨config, is, congrArg Prod.fst (List.mem_singleton.mp mem)⟩
        · rintro ⟨other, also, rfl⟩
          rw [same other also]
          exact ⟨answer, List.mem_singleton_self _⟩
      succeeds_iff := by
        rw [status_ofTool_eq_zero_iff]
        constructor
        · rintro ⟨output, rfl, zero⟩
          exact ⟨asked config, output, List.mem_singleton_self _, zero⟩
        · rintro ⟨invocation, output, mem, zero⟩
          exact ⟨output, (congrArg Prod.snd (List.mem_singleton.mp mem)).symm, zero⟩
      passesOn := by
        intro other also invocation output mem
        cases List.mem_singleton.mp mem
        rw [same other also]
        rfl
      reports := by
        intro other also invocation mem
        cases List.mem_singleton.mp mem
        rw [same other also]
        rfl
      stops := fun nothing => absurd nothing (List.cons_ne_nil _ _) }

/-- All that a compile needs is there: the configuration is absent or loads, every source can be
accessed and the output directory can be made. -/
structure CompileReady (host : Host (StateM ω)) (world : ω) (files : List String)
    (output path : String) (config : ToolchainConfig) : Prop where
  loads : Loads host world path (.ok config)
  seen : ∀ file ∈ files, host.sees world file = true
  made : host.makes world output = .ok ()

/-- All that a run needs is there: the configuration is absent or loads, and there is something at
the archive's path. -/
structure RunReady (host : Host (StateM ω)) (world : ω) (output path : String)
    (config : ToolchainConfig) : Prop where
  loads : Loads host world path (.ok config)
  seen : host.sees world (ArtifactPath.archive output config.language) = true

theorem CompileCourse.toolCourse {log : Log} {files : List String} {output path : String}
    {world : ω} {ended : Outcome × ω} {calls : List HostCall}
    (course : CompileCourse host log files output path world ended calls) :
    ToolCourse (CompileReady host world files output path)
      (fun config => config.compileInvocation files output)
      (fun config => log.printed s!"\t- Compiling {config.language.displayName}...")
      ended.1 (starts calls) := by
  cases course with
  | refused found looks =>
    rw [starts_of_isLook looks]
    exact .stopped fun config is => found.not_ok config is.loads
  | @missing _ file _ found first looks =>
    rw [starts_of_isLook looks]
    refine .stopped fun config is => ?_
    have unseen := List.find?_some first
    simp [is.seen file (List.mem_of_find?_eq_some first)] at unseen
  | unmade found seen made looks =>
    rw [starts_append, starts_of_isLook looks]
    refine .stopped fun config is => ?_
    have failed := is.made
    rw [Host.makes, made] at failed
    cases failed
  | @started config between _ answer _ found seen made ended looks =>
    rw [starts_append, starts_of_isLook looks]
    refine .started ⟨found, fun file mem => ?_, ?_⟩ answer
    · simpa using List.find?_eq_none.mp seen file mem
    · rw [Host.makes, made]

theorem RunCourse.toolCourse {log : Log} {output path : String} {arguments : List String}
    {world : ω} {outcome : Outcome} {calls : List HostCall}
    (course : RunCourse host log output path arguments world outcome calls) :
    ToolCourse (RunReady host world output path)
      (fun config => config.runInvocation output arguments)
      (fun config => log.printed s!"\t- Running {config.language.displayName}...")
      outcome (starts calls) := by
  cases course with
  | refused found looks =>
    rw [starts_of_isLook looks]
    exact .stopped fun config is => found.not_ok config is.loads
  | @missing loaded _ found unseen looks =>
    rw [starts_of_isLook looks]
    refine .stopped fun config is => ?_
    have seen := is.seen
    rw [is.loads.config_unique found, unseen] at seen
    cases seen
  | started found seen answer looks =>
    rw [starts_append, starts_of_isLook looks]
    exact .started ⟨found, seen⟩ answer

/-- A missing source ends a compile before anything was made or shown. It is the first one that is
named, unless the configuration does not load. -/
theorem CompileCourse.of_missing {log : Log} {files : List String} {output path file : String}
    {world : ω} {ended : Outcome × ω} {calls : List HostCall}
    (course : CompileCourse host log files output path world ended calls)
    (first : files.find? (!host.sees world ·) = some file) :
    ended.2 = world ∧ (∀ call ∈ calls, call.IsLook) ∧
      (∀ config, Loads host world path (.ok config) →
        ended.1 = ⟨"", .reported s!"cannot access '{file}'"⟩) ∧
      ∀ refused, Loads host world path (.error refused) →
        ended.1 = ⟨"", .reported refused.context⟩ := by
  cases course with
  | refused found looks =>
    refine ⟨rfl, looks, fun config loads => absurd loads (found.not_ok config), ?_⟩
    intro refused loads
    cases loads.unique found
    rfl
  | missing found named looks =>
    cases named.symm.trans first
    exact ⟨rfl, looks, fun _ _ => rfl, fun _ loads => absurd found (loads.not_ok _)⟩
  | unmade found seen => cases seen.symm.trans first
  | started found seen => cases seen.symm.trans first

/-- A compile starts the compiler exactly if the configuration is absent or loads, every source can
be accessed and the output directory can be made, and a run the runtime exactly if the configuration
is absent or loads and the archive is there; each starts its tool once, ends well exactly if that
did, and passes on what it printed. If a source is missing, a compile only looks at files and shows
nothing; it names the first missing one if the configuration is absent or loads, and else the
configuration. -/
theorem compile_run_gated (looks : host.LooksOnly) (log : Log) (output path : String)
    (world : ω) :
    (∀ files : List String,
      let ended := (compile host log files output path).run world
      let calls := ((compile host.watched log files output path).run (world, [])).2.2
      Gated (CompileReady host world files output path)
        (fun config => config.compileInvocation files output)
        (fun config => log.printed s!"\t- Compiling {config.language.displayName}...")
        ended.1 (starts calls) ∧
      ∀ file, files.find? (!host.sees world ·) = some file →
        ended.2 = world ∧ (∀ call ∈ calls, call.IsLook) ∧
        (∀ config, Loads host world path (.ok config) →
          ended.1 = ⟨"", .reported s!"cannot access '{file}'"⟩) ∧
        ∀ refused, Loads host world path (.error refused) →
          ended.1 = ⟨"", .reported refused.context⟩) ∧
    ∀ arguments : List String,
      let ended := (run host log output path arguments).run world
      let calls := ((run host.watched log output path arguments).run (world, [])).2.2
      Gated (RunReady host world output path)
        (fun config => config.runInvocation output arguments)
        (fun config => log.printed s!"\t- Running {config.language.displayName}...")
        ended.1 (starts calls) := by
  refine ⟨fun files => ?_, fun arguments => ?_⟩
  · have course := compile_course looks log files output path world
    dsimp only
    rw [Asks.compile host log files output path world [], List.nil_append]
    exact ⟨course.toolCourse.gated fun _ _ a b => a.loads.config_unique b.loads,
      fun _ first => course.of_missing first⟩
  · have course := run_course looks log output path arguments world
    dsimp only
    rw [Asks.run host log output path arguments world [], List.nil_append]
    exact course.toolCourse.gated fun _ _ a b => a.loads.config_unique b.loads

/-- A workspace is a host where looking changes nothing. -/
theorem looksOnly_workspace : Workspace.host.LooksOnly where
  isPresent _ _ := rfl
  readText _ _ := rfl

/-- A host with these files, where every directory can be made and every tool answers the same. The
world is the list of the directories that were made. -/
def Host.ofTexts (texts : List (String × Except IoCause String)) (answer : Option ToolOutput) :
    Host (StateM (List String)) where
  isPresent path := return texts.any (·.1 == path) || (← get).contains path
  readText path := return (texts.lookup path).getD (.error (.general .notFound))
  makeDirectories path := modifyGet fun made => (.ok (), made ++ [path])
  start _ := return answer

theorem Host.looksOnly_ofTexts (texts : List (String × Except IoCause String))
    (answer : Option ToolOutput) : (Host.ofTexts texts answer).LooksOnly where
  isPresent _ _ := rfl
  readText _ _ := rfl

theorem compile_run_gated_defaults :
    let host := Host.ofTexts [("a.kt", .ok "fun main() {}")] (some ⟨some 3, "", "no"⟩)
    let calls := ((compile host.watched .stdout ["a.kt"] "build" "wyvern.toml").run ([], [])).2.2
    host.LooksOnly ∧
      (∃ answer, (({} : ToolchainConfig).compileInvocation ["a.kt"] "build", answer) ∈
        starts calls) ∧
      ((compile host .stdout ["a.kt", "b.kt"] "build" "wyvern.toml").run []).1 =
        ⟨"", .reported "cannot access 'b.kt'"⟩ := by
  have looks := Host.looksOnly_ofTexts [("a.kt", .ok "fun main() {}")] (some ⟨some 3, "", "no"⟩)
  have gated := compile_run_gated looks .stdout "build" "wyvern.toml" []
  refine ⟨looks, ?_, ?_⟩
  · exact ((gated.1 ["a.kt"]).1.starts_iff _).mpr ⟨{}, ⟨.absent rfl, by decide, rfl⟩, rfl⟩
  · exact ((gated.1 ["a.kt", "b.kt"]).2 "b.kt" (by decide)).2.2.1 {} (.absent rfl)

/-- With a directory for its configuration a compile does not name the missing source. -/
theorem compile_names_configuration :
    let host := Host.ofTexts [("conf", .error (.os .isDirectory))] none
    let ended := (compile host .stdout ["a.kt"] "build" "conf").run []
    ["a.kt"].find? (!host.sees [] ·) = some "a.kt" ∧
      ended.1 = ⟨"", .reported "failed to read 'conf'"⟩ ∧
      ended.1 ≠ ⟨"", .reported "cannot access 'a.kt'"⟩ := by
  decide

end StagedBuild.CommandLine
