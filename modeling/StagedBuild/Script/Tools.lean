import StagedBuild.Script.Tools.Applying
import StagedBuild.Script.Tools.Characters
import StagedBuild.Script.Tools.Counting
import StagedBuild.Script.Tools.Cutting
import StagedBuild.Script.Tools.Evaluation
import StagedBuild.Script.Tools.Finding
import StagedBuild.Script.Tools.Granting
import StagedBuild.Script.Tools.Grep
import StagedBuild.Script.Tools.Linking
import StagedBuild.Script.Tools.Listing
import StagedBuild.Script.Tools.Making
import StagedBuild.Script.Tools.Neighbours
import StagedBuild.Script.Tools.Portions
import StagedBuild.Script.Tools.Printing
import StagedBuild.Script.Tools.Removing
import StagedBuild.Script.Tools.Sed
import StagedBuild.Script.Tools.Sequence
import StagedBuild.Script.Tools.Showing
import StagedBuild.Script.Tools.Sorting
import StagedBuild.Script.Tools.Starting
import StagedBuild.Script.Tools.Transfer

/-!
# The tools of the system

The programs that scripts call, by their names.
-/

namespace StagedBuild.Script.Tools

open Process

/-- The tools that need no other program, by their names. -/
def plain : List (String × Tool) :=
  [("true", fun _ => return 0), ("false", fun _ => return 1), ("echo", echo),
   ("printf", printf), ("test", condition false), ("[", condition true), ("pwd", pwd),
   ("sleep", sleep), ("basename", basename), ("dirname", dirname), ("yes", yes),
   ("printenv", printenv), ("uname", uname), ("cat", cat), ("tee", tee), ("rev", rev),
   ("fold", fold), ("expand", expand), ("unexpand", unexpand), ("paste", paste), ("head", head),
   ("tail", tail), ("wc", wc), ("sort", sort), ("uniq", uniq), ("comm", comm), ("tr", tr),
   ("cut", cut), ("seq", Sequence.tool), ("grep", Grep.tool none), ("egrep", Grep.tool (some "E")),
   ("fgrep", Grep.tool (some "F")), ("mkdir", mkdir), ("rmdir", rmdir), ("rm", rm),
   ("unlink", unlink), ("touch", touch), ("truncate", truncate), ("mkfifo", mkfifo),
   ("mktemp", mktemp), ("ln", ln), ("link", link), ("readlink", readlink), ("realpath", realpath),
   ("cp", cp), ("mv", mv), ("chmod", chmod), ("chown", chown), ("chgrp", chgrp),
   ("ls", Listing.tool .single .literal), ("dir", Listing.tool .columns .escaped),
   ("vdir", Listing.tool .long .escaped),
   ("expr", Evaluation.tool)]

/-- The tools that start other programs, by their names. -/
def starting : List (String × (Execute → Tool)) :=
  [("env", env), ("nohup", nohup), ("nice", nice), ("stdbuf", stdbuf), ("setsid", setsid),
   ("timeout", timeout), ("sed", Sed.tool), ("xargs", xargs), ("find", Finding.tool)]

/-- The tool of a name. -/
def find? (name : String) : Option (Execute → Tool) :=
  ((plain.lookup name).map fun tool _ => tool) <|> starting.lookup name

/-- The names of the tools. -/
def names : List String :=
  plain.map (·.1) ++ starting.map (·.1)

end StagedBuild.Script.Tools
