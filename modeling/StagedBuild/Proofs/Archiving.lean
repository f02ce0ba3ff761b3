import StagedBuild.Proofs.Hosting
import StagedBuild.Proofs.PathNames

/-!
# One archive for both tools

The compiler is told where the archive goes by its whole path; the runtime is started in the output
directory and told the archive's name. Both mean one archive, the one in the output directory,
except if that is given by the empty text: as a directory to start in this is where we are, but as a
text to put a name behind it becomes the root (`archive_shared_iff`, `archive_differs_of_empty`).
The same holds of the archive that a run looks for before it starts the runtime.

* `Invocation.reached`: what a path among the arguments means to a tool.
* `made?`, `loaded?`: the archive that the compiler makes and the one that the runtime loads.
* `ofText_archive`, `ofText_join`: either way of writing it leads through the names of the directory
  and then to the archive's name.
-/

namespace StagedBuild

namespace Invocation

/-- The argument behind a flag. -/
def argumentAfter? (invocation : Invocation) (flag : String) : Option String :=
  (invocation.arguments.dropWhile (· != flag))[1]?

/-- Where a path leads that a tool is told: it is taken from the directory the tool is started
in. -/
def reached (invocation : Invocation) (path : String) : FilePath :=
  match invocation.workingDir with
  | some dir => FilePath.ofText (FilePath.join dir path)
  | none => FilePath.ofText path

/-- The archive that the compiler is told to make. -/
def made? (invocation : Invocation) : Option FilePath :=
  (invocation.argumentAfter? "-d").map invocation.reached

/-- The archive that the runtime is told to load. -/
def loaded? (invocation : Invocation) : Option FilePath :=
  (invocation.argumentAfter? "-jar").map invocation.reached

end Invocation

section

variable (config : ToolchainConfig) (outputDir : String)

theorem made?_compileInvocation (paths : List String) :
    (config.compileInvocation paths outputDir).made? =
      some (FilePath.ofText (ArtifactPath.archive outputDir config.language)) := rfl

theorem loaded?_runInvocation (arguments : List String) :
    (config.runInvocation outputDir arguments).loaded? =
      some (FilePath.ofText (FilePath.join outputDir config.language.archiveName)) := rfl

end

theorem isName_archiveName (target : Target) : FilePath.IsName target.archiveName := by
  cases target
  exact ⟨by decide, by decide, by decide⟩

/-- A name behind a directory: its text is put behind the directory's, with a slash in between. -/
theorem FilePath.join_eq {dir name : String} (nonempty : dir ≠ "") (isName : IsName name) :
    join dir name = ArtifactPath.folderWithSlash dir ++ name := by
  have noRoot : startsAtRoot name = false := by
    have plain := isName.noSlash
    cases eq : name.toList with
    | nil => simp [startsAtRoot, eq]
    | cons c rest =>
      have other : c ≠ '/' := by
        rintro rfl
        exact plain (eq ▸ List.mem_cons_self)
      simp [startsAtRoot, eq, other]
  have given : dir.isEmpty = false := by simpa using nonempty
  rw [join, noRoot, given, Bool.or_false, if_neg Bool.false_ne_true]
  by_cases ends : endsWithSlash dir
  · rw [if_pos ends, ArtifactPath.folderWithSlash_of_ends ends]
  · rw [if_neg ends, ArtifactPath.folderWithSlash_of_open ends]

/-- The archive in a directory. -/
def archiveIn (outputDir : String) (target : Target) : FilePath :=
  ⟨(FilePath.ofText outputDir).absolute, (FilePath.ofText outputDir).names ++ [target.archiveName]⟩

theorem ofText_archive {outputDir : String} (nonempty : outputDir ≠ "") (target : Target) :
    FilePath.ofText (ArtifactPath.archive outputDir target) = archiveIn outputDir target := by
  have ends := ArtifactPath.folderWithSlash_ends outputDir
  rw [ArtifactPath.archive, FilePath.ofText_append_name ends (isName_archiveName target),
    ArtifactPath.ofText_folderWithSlash nonempty, archiveIn]

theorem ofText_join (outputDir : String) (target : Target) :
    FilePath.ofText (FilePath.join outputDir target.archiveName) = archiveIn outputDir target := by
  by_cases nonempty : outputDir = ""
  · subst nonempty
    cases target
    decide
  · rw [FilePath.join_eq nonempty (isName_archiveName target), ← ArtifactPath.archive,
      ofText_archive nonempty]

/-- Behind the empty text the archive is at the root, and so not where we are. -/
theorem ofText_archive_eq_iff (outputDir : String) (target : Target) :
    FilePath.ofText (ArtifactPath.archive outputDir target) = archiveIn outputDir target ↔
      outputDir ≠ "" := by
  constructor
  · rintro same rfl
    cases target
    exact absurd same (by decide)
  · exact fun nonempty => ofText_archive nonempty target

namespace CommandLine

variable {ω : Type}

theorem not_start_mem_loadCalls (host : Host (StateM ω)) (path : String) (world : ω)
    (invocation : Invocation) (answer : Option ToolOutput) :
    .start invocation answer ∉ loadCalls host path world :=
  isLook_loadCalls host path world _

/-- Whatever a run starts, it starts last and right after it found the archive. -/
theorem runCalls_of_start {host : Host (StateM ω)} {output path : String}
    {arguments : List String} {world : ω} {invocation : Invocation} {answer : Option ToolOutput}
    (started : .start invocation answer ∈ runCalls host output path arguments world) :
    ∃ config : ToolchainConfig, invocation = config.runInvocation output arguments ∧
      runCalls host output path arguments world = loadCalls host path world ++
        [.isPresent (ArtifactPath.archive output config.language) true,
          .start invocation answer] := by
  have late : .start invocation answer ∈ loadedCalls host output arguments
      ((loadConfig host path).run world).1 ((loadConfig host path).run world).2 := by
    obtain early | late := List.mem_append.mp started
    · exact absurd early (not_start_mem_loadCalls host path world invocation answer)
    · exact late
  rw [runCalls]
  cases loads : ((loadConfig host path).run world).1 with
  | error refused =>
    rw [loads] at late
    simp [loadedCalls] at late
  | ok config =>
    rw [loads, loadedCalls, archiveCalls] at late
    rw [loadedCalls, archiveCalls]
    by_cases present : ((host.isPresent (ArtifactPath.archive output config.language)).run
        ((loadConfig host path).run world).2).1
    · simp only [present, if_true, List.mem_cons, List.not_mem_nil, or_false, reduceCtorEq,
        false_or, HostCall.start.injEq] at late
      refine ⟨config, late.1, ?_⟩
      simp only [present, if_true, late]
    · simp [present] at late

/-- Once a configuration is loaded and the archive is found, the runtime is started. -/
theorem start_mem_runCalls {host : Host (StateM ω)} {output path : String} {world after : ω}
    {config : ToolchainConfig} (arguments : List String)
    (loads : (loadConfig host path).run world = (.ok config, after))
    (found : ((host.isPresent (ArtifactPath.archive output config.language)).run after).1 = true) :
    ∃ answer, .start (config.runInvocation output arguments) answer ∈
      runCalls host output path arguments world := by
  rw [runCalls, loads]
  dsimp only [loadedCalls, archiveCalls]
  rw [found, if_pos rfl]
  exact ⟨_, List.mem_append_right _ (List.mem_cons_of_mem _ List.mem_cons_self)⟩

end CommandLine

open CommandLine in
/-- The runtime is told to load the archive in the output directory, and the compiler to make that
one, unless the output directory is the empty text. Likewise a run that starts the runtime does so
right after it found an archive, and this is the one the runtime loads unless the output directory
is the empty text. -/
theorem archive_shared_iff {ω : Type} (config : ToolchainConfig) (outputDir : String)
    (sources arguments : List String) (host : Host (StateM ω)) (log : Log) (path : String)
    (world : ω) :
    let asked := ((run host.watched log outputDir path arguments).run (world, [])).2.2
    (config.runInvocation outputDir arguments).loaded? =
        some (archiveIn outputDir config.language) ∧
    ((config.compileInvocation sources outputDir).made? =
        (config.runInvocation outputDir arguments).loaded? ↔ outputDir ≠ "") ∧
    (∀ invocation answer, .start invocation answer ∈ asked → ∃ before checked,
      asked = before ++ [.isPresent checked true, .start invocation answer] ∧
      (some (FilePath.ofText checked) = invocation.loaded? ↔ outputDir ≠ "")) ∧
    ∀ loaded after, (loadConfig host path).run world = (.ok loaded, after) →
      ((host.isPresent (ArtifactPath.archive outputDir loaded.language)).run after).1 = true →
      ∃ answer, .start (loaded.runInvocation outputDir arguments) answer ∈ asked := by
  have record : ((run host.watched log outputDir path arguments).run (world, [])).2.2 =
      runCalls host outputDir path arguments world := by
    rw [Asks.run host log outputDir path arguments world [], List.nil_append]
  have loads : ∀ config : ToolchainConfig,
      (config.runInvocation outputDir arguments).loaded? =
        some (archiveIn outputDir config.language) := by
    intro config
    rw [loaded?_runInvocation, ofText_join]
  dsimp only
  rw [record]
  refine ⟨loads config, ?_, ?_, ?_⟩
  · rw [loads, made?_compileInvocation, Option.some.injEq, ofText_archive_eq_iff]
  · intro invocation answer started
    obtain ⟨config, rfl, calls⟩ := runCalls_of_start started
    refine ⟨_, _, calls, ?_⟩
    rw [loads, Option.some.injEq, ofText_archive_eq_iff]
  · intro loaded after loads' found
    exact start_mem_runCalls arguments loads' found

/-- With the empty text for an output directory the compiler makes an archive at the root, and the
runtime is to load one where we are. -/
theorem archive_differs_of_empty :
    let config : ToolchainConfig := {}
    (config.compileInvocation ["a.kt"] "").made? = some ⟨true, ["kotlin.jar"]⟩ ∧
      (config.runInvocation "" []).loaded? = some ⟨false, ["kotlin.jar"]⟩ ∧
      (config.compileInvocation ["a.kt"] "").made? ≠ (config.runInvocation "" []).loaded? := by
  decide

end StagedBuild
