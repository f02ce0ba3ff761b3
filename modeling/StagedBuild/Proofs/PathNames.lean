import StagedBuild.ArtifactPath
import StagedBuild.FilePath
import StagedBuild.Proofs.Cutting

/-!
# Paths made of a folder and a name

A folder and a name behind its last slash, written as one text, lead through the names of the folder
and then to the name (`ofText_append_name`). The text that a folder is completed to before names
are put behind it is the same path, except for the empty text (`ofText_folderWithSlash`).

* `segments_append_slash`: the pieces of a path are those before any of its slashes and those after.
* `namesAmong`: which pieces are names.
-/

namespace StagedBuild

namespace FilePath

/-- The text can be the last name of a path. -/
structure IsName (name : String) : Prop where
  nonempty : name ≠ ""
  noSlash : '/' ∉ name.toList
  notDot : name ≠ "."

/-- Cut at any of its slashes, a path leads through the pieces before it and those after it. -/
theorem segments_append_slash (before after : String) :
    segments (before ++ "/" ++ after) = segments before ++ segments after := by
  have slash : (before ++ "/" ++ after).toList = before.toList ++ '/' :: after.toList := by
    simp [String.toList_append]
  rw [segments, slash, Text.splitOn_eq, List.splitOn_append_cons_self, List.filter_append,
    List.map_append, ← Text.splitOn_eq, ← Text.splitOn_eq]
  rfl

theorem segments_name {name : String} (isName : IsName name) : segments name = [name] := by
  have piece : name.toList ≠ [] := by simpa using isName.nonempty
  rw [segments, Text.splitOn_eq, List.splitOn_eq_singleton isName.noSlash]
  simp [piece]

/-- A slash at the end begins no further piece. -/
theorem segments_slash_end (dir : String) : segments (dir ++ "/") = segments dir := by
  have cut := segments_append_slash dir ""
  have nothing : segments "" = [] := rfl
  rwa [String.append_empty, nothing, List.append_nil] at cut

theorem startsAtRoot_append {text : String} (nonempty : text ≠ "") (more : String) :
    startsAtRoot (text ++ more) = startsAtRoot text := by
  have some' : text.toList ≠ [] := by simpa using nonempty
  obtain ⟨c, rest, eq⟩ := List.exists_cons_of_ne_nil some'
  simp [startsAtRoot, String.toList_append, eq]

/-- The names among the pieces of a path: dots are none, but for one that starts a relative path. -/
def namesAmong (root : Bool) (pieces : List String) : List String :=
  if pieces.head? = some "." ∧ root = false then "." :: pieces.tail.filter (· != ".")
  else pieces.filter (· != ".")

theorem names_ofText (path : String) :
    (ofText path).names = namesAmong (startsAtRoot path) (segments path) := by
  rw [ofText, namesAmong]
  cases pieces : segments path with
  | nil => simp
  | cons piece rest =>
    by_cases dot : piece = "."
    · cases startsAtRoot path <;> simp [dot]
    · simp [dot]

theorem namesAmong_concat {name : String} (notDot : name ≠ ".") (root : Bool)
    (pieces : List String) :
    namesAmong root (pieces ++ [name]) = namesAmong root pieces ++ [name] := by
  unfold namesAmong
  cases pieces with
  | nil => simp [notDot]
  | cons piece rest =>
    by_cases here : piece = "." ∧ root = false
    · simp [here, notDot]
    · simp only [List.cons_append, List.head?_cons, Option.some.injEq, if_neg here]
      rw [← List.cons_append, List.filter_append]
      simp [notDot]

/-- A path that ends with a slash, and a name after it. -/
theorem ofText_append_name {folder name : String} (ends : endsWithSlash folder)
    (isName : IsName name) :
    ofText (folder ++ name) = ⟨(ofText folder).absolute, (ofText folder).names ++ [name]⟩ := by
  have last : folder.toList.getLast? = some '/' := by simpa [endsWithSlash] using ends
  obtain ⟨front, cut⟩ := List.getLast?_eq_some_iff.mp last
  have split : folder = String.ofList front ++ "/" := by
    rw [← String.toList_inj]
    simp [String.toList_append, cut]
  have nonempty : folder ≠ "" := by
    rintro rfl
    simp at last
  have root := startsAtRoot_append nonempty name
  have pieces : segments (folder ++ name) = segments folder ++ [name] := by
    rw [split, segments_append_slash, segments_slash_end, segments_name isName]
  have names : (ofText (folder ++ name)).names = (ofText folder).names ++ [name] := by
    rw [names_ofText, names_ofText, pieces, root, namesAmong_concat isName.notDot]
  rw [← names]
  exact congrArg (FilePath.mk · (ofText (folder ++ name)).names) root

end FilePath

namespace ArtifactPath

theorem folderWithSlash_ends (dir : String) : FilePath.endsWithSlash (folderWithSlash dir) := by
  unfold folderWithSlash FilePath.endsWithSlash
  split
  · next ends => simp [ends]
  · simp [String.toList_append]

theorem folderWithSlash_of_ends {dir : String} (ends : FilePath.endsWithSlash dir) :
    folderWithSlash dir = dir := by
  have last : dir.toList.getLast? = some '/' := by simpa [FilePath.endsWithSlash] using ends
  rw [folderWithSlash, if_pos last]

theorem folderWithSlash_of_open {dir : String} (noSlash : ¬ FilePath.endsWithSlash dir) :
    folderWithSlash dir = dir ++ "/" := by
  have last : dir.toList.getLast? ≠ some '/' := by simpa [FilePath.endsWithSlash] using noSlash
  rw [folderWithSlash, if_neg last]

/-- A slash behind a folder that has none changes nothing. -/
theorem folderWithSlash_append {dir : String} (noSlash : ¬ FilePath.endsWithSlash dir) :
    folderWithSlash (dir ++ "/") = folderWithSlash dir := by
  have ends : FilePath.endsWithSlash (dir ++ "/") := by
    simp [FilePath.endsWithSlash, String.toList_append]
  rw [folderWithSlash_of_ends ends, folderWithSlash_of_open noSlash]

/-- The slash at the end of a folder has no meaning, unless it is all there is: the empty text is
where we are, and with a slash it is the root. -/
theorem ofText_folderWithSlash {dir : String} (nonempty : dir ≠ "") :
    FilePath.ofText (folderWithSlash dir) = FilePath.ofText dir := by
  by_cases ends : FilePath.endsWithSlash dir
  · rw [folderWithSlash_of_ends ends]
  · have root := FilePath.startsAtRoot_append nonempty "/"
    rw [folderWithSlash_of_open ends, FilePath.ofText, FilePath.segments_slash_end, root,
      ← FilePath.ofText]

end ArtifactPath

end StagedBuild
