/-!
# Reports

A report is a list of entries; an output decides where they go. A buffered output keeps one line
an entry, a terminal prints them.
-/

namespace StagedBuild

namespace Report

/-- One call on an output. -/
inductive Entry where
  /-- A heading. -/
  | heading (name : String)
  /-- A bullet point. -/
  | listItem (text : String)
  /-- Text to show as it is. -/
  | preformatted (text : String)
  /-- An empty line. -/
  | newline
  deriving DecidableEq, Repr

namespace Entry

/-- The line kept by a buffered output. -/
def line : Entry → String
  | .heading name => name ++ ":"
  | .listItem text => "- " ++ text
  | .preformatted text => text
  | .newline => ""

/-- The text printed on a terminal. -/
def printed : Entry → String
  | .heading name => name ++ ":\n"
  | .listItem text => "- " ++ text ++ "\n"
  | .preformatted text => text ++ "\n"
  | .newline => "\n"

end Entry

end Report

/-- What is shown, entry by entry. -/
abbrev Report := List Report.Entry

namespace Report

/-- The lines kept by a buffered output, one an entry. -/
def lines (report : Report) : List String :=
  report.map Entry.line

/-- The buffered lines joined by newlines. -/
def contents (report : Report) : String :=
  "\n".intercalate report.lines

/-- Everything a terminal prints. -/
def terminal (report : Report) : String :=
  report.foldl (fun text entry => text ++ entry.printed) ""

end Report

end StagedBuild
