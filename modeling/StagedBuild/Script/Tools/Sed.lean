import StagedBuild.Script.Tools.Sed.Reader
import StagedBuild.Script.Tools.Sed.Run

/-!
# The editor of streams

The program comes from the options, or else from the first argument; the others are inputs.
-/

namespace StagedBuild.Script.Tools.Sed

open Process

/-- The parts of a program that were given as options; the text of a file is read. -/
def sourcesOf (call : Call) : (arguments : Nat) → Given → Act (List Source)
  | _, [] => return []
  | arguments, (key, value) :: given => do
    match key with
    | "e" =>
      let rest ← sourcesOf call (arguments + 1) given
      return ⟨.argument (arguments + 1), value.toList⟩ :: rest
    | "f" =>
      match ← readInput (if value = "/dev/stdin" then "-" else value) with
      | .ok text => return ⟨.file value, text.toList⟩ :: (← sourcesOf call arguments given)
      | .error .isDirectory =>
        call.giveUp ("read error on " ++ value ++ ": Is a directory")
      | .error e => call.giveUp ("couldn't open file " ++ value ++ ": " ++ e.description)
    | _ => sourcesOf call arguments given

/-- The label of a jump that is not in the program. -/
def missingLabel? (program : Program) : Option String :=
  (program.commands.toList.filterMap fun command => match command.action with
    | .branch label | .branchIf label | .branchUnless label => some label
    | _ => none).find? fun label => !label.isEmpty && !program.labels.any (·.1 == label)

/-- The options of the editor. -/
def known : String :=
  "E,regexp-extended r n,quiet,silent e,expression= f,file= i,in-place? l,line-length= " ++
  "s,separate u,unbuffered z,null-data,zero-terminated b,binary ,posix ,debug ,sandbox " ++
  ",follow-symlinks"

/-- Edits lines as a program says. -/
def tool (execute : Execute) : Tool := fun call => do
  let usage := "Usage: " ++ call.name ++
    " [OPTION]... \x7bscript-only-if-no-other-script\x7d [input-file]...\n"
  let (given, others) ← match optionsFrom (.ofText known) true noneOther false call.args with
    | .ok found => pure found
    | .error problem => do
      call.complain problem
      call.say usage
      Act.exit 1
  let misused := { call with trouble := 1 }
  let call := { call with trouble := 4 }
  let sources ← sourcesOf call 0 given
  let (sources, paths) ← match sources, others with
    | [], [] => do
      call.say usage
      Act.exit 1
    | [], script :: paths => pure ([⟨.argument 1, script.toList⟩], paths)
    | _, _ => pure (sources, others)
  let width ← match given.value? "l" with
    | none => pure 70
    | some text =>
      match text.toNat? with
      | some width => pure width
      | none => misused.giveUp ("invalid line length: " ++ text)
  let manner : Manner := {
    charset := call.charset
    extended := given.has "E" || given.has "r"
    enclosed := given.has "sandbox" }
  let program ← match Program.read manner sources with
    | .ok program => pure program
    | .error problem => misused.giveUp problem
  if let some label := missingLabel? program then
    call.giveUp ("can't find label for jump to \x60" ++ label ++ "'")
  let isInPlace := given.has "i"
  if isInPlace && paths.isEmpty then call.giveUp "no input files"
  let files ← program.files.mapM fun path => do
    match ← Act.openPath .writing path with
    | .ok channel => return ({ descriptor := ← Act.hide channel } : Outlet)
    | .error e => call.giveUp ("couldn't open file " ++ path ++ ": " ++ e.description)
  let arguments := (sources.filter fun source => match source.origin with
    | .argument _ => true
    | .file _ => false).length
  let setup : Setup := {
    call, execute, program, width
    silent := given.has "n" || program.silent
    separate := given.has "s" || isInPlace
    backup := given.value? "i"
    stop := if given.has "z" then '\x00' else '\n'
    sparing := given.has "u"
    strict := given.has "posix" || (call.environment.lookup "POSIXLY_CORRECT").isSome
    place := "-e expression #" ++ toString arguments ++ ", char 0: " }
  let session : Session := {
    paths := if paths.isEmpty then ["-"] else paths
    ranges := Edit.freshRanges program
    files := files.toArray }
  let (status, _) ← StateT.run (ReaderT.run Edit.all setup) session
  return status

end StagedBuild.Script.Tools.Sed
