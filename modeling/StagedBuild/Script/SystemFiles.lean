import StagedBuild.FileTree
import StagedBuild.Script.Tools

/-!
# Files of the system

The directories, devices and programs that are there before anybody makes a file.
-/

namespace StagedBuild.Script.SystemFiles

/-- The directories of the system, each after the one above it. -/
def directories : List String :=
  ["boot", "dev", "dev/fd", "etc", "home", "media", "mnt", "opt", "proc", "root", "run", "srv",
   "sys", "tmp", "tmp/work", "usr", "usr/bin", "usr/games", "usr/include", "usr/lib", "usr/lib64",
   "usr/libexec", "usr/local", "usr/local/bin", "usr/local/sbin", "usr/sbin", "usr/share",
   "usr/src", "var", "var/lib", "var/log", "var/tmp"]

/-- Links at the root of the system. -/
def links : List (String × String) :=
  [("bin", "usr/bin"), ("lib", "usr/lib"), ("lib64", "usr/lib64"), ("sbin", "usr/sbin")]

/-- The devices of the system. -/
def devices : List (String × Device) :=
  [("dev/null", .null), ("dev/full", .full), ("dev/zero", .zero), ("dev/random", .random),
   ("dev/urandom", .random), ("dev/tty", .terminal), ("dev/stdin", .descriptor 0),
   ("dev/stdout", .descriptor 1), ("dev/stderr", .descriptor 2)] ++
    (List.range 100).map fun number => ("dev/fd/" ++ toString number, .descriptor number)

/-- Programs that do the same as others. -/
def synonyms : List (String × String) :=
  [("dash", "sh"), ("sh", "sh")]

/-- The tree of these files. -/
def tree : FileTree :=
  let make (tree : FileTree) (path : String) (content : Content) (rights : Nat) : FileTree :=
    match tree.resolve FileTree.root path false with
    | .ok ⟨dir, some name, none⟩ => (tree.grow dir name content rights).2
    | _ => tree
  let tree := directories.foldl (fun tree path =>
    (tree.makeDirectory FileTree.root path).toOption.getD tree) FileTree.empty
  let tree := links.foldl (fun tree (path, target) => make tree path (.link target) 511) tree
  let tree := devices.foldl (fun tree (path, device) => make tree path (.device device) 438) tree
  let programs := synonyms ++ Tools.names.map fun name => (name, name)
  let tree := programs.foldl (fun tree (name, program) =>
    make tree ("usr/bin/" ++ name) (.program program) FileTree.programRights) tree
  match tree.find FileTree.root "tmp" with
  | .ok id => tree.update id fun node => { node with rights := 1023 }
  | .error _ => tree

end StagedBuild.Script.SystemFiles
