import StagedBuild.Text.Cut

/-!
# File paths

A path as the sequence of names it leads through. Repeated slashes, a slash at the end, and a dot
anywhere but at the start of a relative path have no meaning; two dots are kept, because what they
lead to depends on the file tree.
-/

namespace StagedBuild

/-- The names a path leads through, from the root or from where we are. -/
structure FilePath where
  absolute : Bool
  names : List String
  deriving DecidableEq, Repr

namespace FilePath

/-- The pieces of a path between slashes, empty ones left out. -/
def segments (path : String) : List String :=
  ((Text.splitOn '/' path.toList).filter (!·.isEmpty)).map String.ofList

/-- The path starts at the root. -/
def startsAtRoot (path : String) : Bool :=
  path.toList.head? == some '/'

/-- The path ends with a slash. -/
def endsWithSlash (path : String) : Bool :=
  path.toList.getLast? == some '/'

/-- The path that a text denotes. -/
def ofText (path : String) : FilePath :=
  let found := segments path
  let names := match found, startsAtRoot path with
    | "." :: rest, false => "." :: rest.filter (· != ".")
    | names, _ => names.filter (· != ".")
  ⟨startsAtRoot path, names⟩

/-- The second path taken from the directory that the first denotes. -/
def join (dir path : String) : String :=
  if startsAtRoot path || dir.isEmpty then path
  else if endsWithSlash dir then dir ++ path
  else dir ++ "/" ++ path

/-- Pieces of a path without those at the end that have no meaning. -/
def dropMeaningless (pieces : List (List Char)) : List (List Char) :=
  (pieces.reverse.dropWhile fun piece => piece.isEmpty || piece == ['.']).reverse

/-- The path of the directory that holds what the path denotes: its beginning, up to the last name.
There is none for the root and for the empty path. -/
def parent? (path : String) : Option String :=
  let pieces := Text.splitOn '/' path.toList
  let startsHere := pieces.head? == some ['.']
  let fixed := startsAtRoot path || startsHere
  let front := if fixed then pieces.take 1 else []
  let names := dropMeaningless (pieces.drop front.length)
  let above := dropMeaningless names.dropLast
  if names.isEmpty then if startsHere then some "" else none
  else if above.isEmpty && startsAtRoot path then some "/"
  else some (String.ofList (['/'].intercalate (front ++ above)))

/-- The paths of the directories above a path, the nearest first and at most `count`. -/
def above : (count : Nat) → (path : String) → List String
  | 0, _ => []
  | count + 1, path => match parent? path with
    | some dir => dir :: above count dir
    | none => []

end FilePath

end StagedBuild
