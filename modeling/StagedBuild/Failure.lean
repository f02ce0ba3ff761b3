import StagedBuild.Diagnostic.Render
import StagedBuild.OsError

/-!
# Failures

What makes an input fail: a file that cannot be read or written, a library that cannot be
refreshed, or a stage that meets a node it cannot handle. Every failure has a diagnostic. That of
a stage is attached to it; the others get one that lists all their causes.
-/

namespace StagedBuild

/-- General kinds of an input or output error. -/
inductive IoKind where
  | notFound | permissionDenied | alreadyExists | invalidInput | invalidData | timedOut
  | writeZero | interrupted | unexpectedEof | brokenPipe | unsupported | other
  deriving DecidableEq, Repr

/-- The text of an error that is known by its kind alone. -/
def IoKind.text : IoKind → String
  | .notFound => "entity not found"
  | .permissionDenied => "permission denied"
  | .alreadyExists => "entity already exists"
  | .invalidInput => "invalid input parameter"
  | .invalidData => "invalid data"
  | .timedOut => "timed out"
  | .writeZero => "write zero"
  | .interrupted => "operation interrupted"
  | .unexpectedEof => "unexpected end of file"
  | .brokenPipe => "broken pipe"
  | .unsupported => "unsupported"
  | .other => "other error"

/-- Why a file operation failed. -/
inductive IoCause where
  /-- An error known by its kind. -/
  | general (kind : IoKind)
  /-- An error of the operating system. -/
  | os (error : OsError)
  /-- The path holds a NUL character. -/
  | nulInPath
  /-- The file is not UTF-8 text. -/
  | notText
  /-- An error with a text of its own and the texts of the errors that caused it. -/
  | custom (text : String) (causes : List String)
  deriving DecidableEq, Repr

/-- The text of the error itself; one that wraps an error has the text of that one. -/
def IoCause.text : IoCause → String
  | .general kind => kind.text
  | .os error => error.text
  | .nulInPath => "file name contained an unexpected NUL byte"
  | .notText => "stream did not contain valid UTF-8"
  | .custom text _ => text

/-- The texts of the errors that caused it, outermost first: those that caused what it wraps. -/
def IoCause.causes : IoCause → List String
  | .custom _ causes => causes
  | .general _ | .os _ | .nulInPath | .notText => []

/-- The texts of the error and of its causes, outermost first. -/
def IoCause.texts (cause : IoCause) : List String :=
  cause.text :: cause.causes

/-- An error in a chain of causes: it has a text, and may have been caused by another error. -/
inductive ErrorLink where
  | last (text : String)
  | caused (text : String) (source : ErrorLink)
  deriving DecidableEq, Repr

namespace ErrorLink

/-- The text of the error itself. -/
def text : ErrorLink → String
  | last text | caused text _ => text

/-- The error that caused it. -/
def source? : ErrorLink → Option ErrorLink
  | last _ => none
  | caused _ source => some source

/-- The error with the first text, caused by that with the second, and so on. -/
def ofTexts (text : String) : List String → ErrorLink
  | [] => last text
  | next :: rest => caused text (ofTexts next rest)

/-- The line that details have for the error. -/
def line (link : ErrorLink) : String :=
  "caused by: " ++ link.text

/-- How many errors the chain has from this one on. -/
def length : ErrorLink → Nat
  | last _ => 1
  | caused _ source => source.length + 1

/-- Follows the chain from an error to what caused it, and puts the line of each error behind the
lines so far. -/
def follow (lines : List String) (next? : Option ErrorLink) : List String :=
  match next? with
  | none => lines
  | some link => follow (lines ++ [link.line]) link.source?
termination_by next?.elim 0 length
decreasing_by cases link <;> simp [source?, length]

end ErrorLink

/-- The error as the first of its chain. -/
def IoCause.link (cause : IoCause) : ErrorLink :=
  .ofTexts cause.text cause.causes

/-- The text of the innermost cause. -/
def IoCause.rootText (cause : IoCause) : String :=
  cause.texts.getLast?.getD ""

/-- The stage whose node could not be handled, in the order the stages run. -/
inductive FailureStage where
  | decoder
  | treeTranslator
  | codeGenerator
  deriving DecidableEq, Ord, Repr

namespace FailureStage

/-- Every stage, in the order they run. -/
def all : List FailureStage := [.decoder, .treeTranslator, .codeGenerator]

/-- The stage's name in messages. -/
def displayName : FailureStage → String
  | .decoder => "AST dump decoder"
  | .treeTranslator => "Tree translator"
  | .codeGenerator => "Code generator"

/-- What the stage failed to do. -/
def verb : FailureStage → String
  | .decoder => "decode"
  | .treeTranslator | .codeGenerator => "translate"

/-- The heading of the stage's failures in a histogram. -/
def heading (stage : FailureStage) : String :=
  s!"{stage.displayName} failed to {stage.verb}"

end FailureStage

/-- What was tried with a file. -/
inductive FileAction where
  | read
  | write
  deriving DecidableEq, Repr

/-- The action as a verb. -/
def FileAction.verb : FileAction → String
  | .read => "read"
  | .write => "write"

/-- Why an input failed. -/
inductive Failure where
  /-- A file could not be read or written. -/
  | file (action : FileAction) (path : String) (cause : IoCause) (thrownBy : ThrowSite)
  /-- The library definitions could not be made anew. -/
  | libraryRefresh (cause : IoCause) (thrownBy : ThrowSite)
  /-- A dump has a node of this kind, and it cannot be decoded. -/
  | decode (kind : String) (diagnostic : Diagnostic)
  /-- A decoded tree has a node of this kind, and it cannot be translated. -/
  | translate (kind : String) (diagnostic : Diagnostic)
  /-- A tree has a node of this kind, and no source can be generated for it. -/
  | generate (kind : String) (diagnostic : Diagnostic)
  deriving DecidableEq, Repr

namespace Failure

/-- The failure as one text. -/
def message : Failure → String
  | .file action path _ _ => s!"failed to {action.verb} '{path}'"
  | .libraryRefresh _ _ => "failed to refresh library definitions"
  | .decode _ diagnostic | .translate _ diagnostic | .generate _ diagnostic => diagnostic.render

/-- The stage and node kind that the failure is counted under, if it has one. -/
def classification : Failure → Option (FailureStage × String)
  | .decode kind _ => some (.decoder, kind)
  | .translate kind _ => some (.treeTranslator, kind)
  | .generate kind _ => some (.codeGenerator, kind)
  | .file .. | .libraryRefresh .. => none

/-- The diagnostic attached to the failure. -/
def diagnostic? : Failure → Option Diagnostic
  | .decode _ diagnostic | .translate _ diagnostic | .generate _ diagnostic => some diagnostic
  | .file .. | .libraryRefresh .. => none

/-- The error that caused the failure, if there is one. -/
def source? : Failure → Option ErrorLink
  | .file _ _ cause _ | .libraryRefresh cause _ => some cause.link
  | .decode .. | .translate .. | .generate .. => none

/-- The failure as a diagnostic: the attached one as it is, or one made from the message and all
causes. -/
def toDiagnostic (failure : Failure) : Diagnostic :=
  match failure with
  | .file _ _ _ thrownBy | .libraryRefresh _ thrownBy =>
    { Diagnostic.error failure.message thrownBy with
      details := "\n".intercalate (ErrorLink.follow [] failure.source?) }
  | .decode _ diagnostic | .translate _ diagnostic | .generate _ diagnostic => diagnostic

/-- The code that error reports show for the failure. -/
def code : Failure → String
  | .file .. => "wyvern::io"
  | .libraryRefresh .. => "wyvern::library"
  | .decode .. => "wyvern::decode"
  | .translate .. => "wyvern::translate"
  | .generate .. => "wyvern::generate"

/-- Advice on what to check. -/
def help? : Failure → Option String
  | .libraryRefresh .. =>
    some "check that the library template directory is readable and writable"
  | .file .. | .decode .. | .translate .. | .generate .. => none

end Failure

end StagedBuild
