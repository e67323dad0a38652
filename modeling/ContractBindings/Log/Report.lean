import ContractBindings.Log.Note
import ContractBindings.Log.Table
import ContractBindings.Text.Joined

/-!
# Reports

Two reports on the notes of a pass.  `summary` counts the warnings by kind of construct on a
single line.  `report` lists the same counts on lines of their own and, when it is verbose,
each warning below its kind and then each note that is no warning.  Kinds are in alphabetical
order, by code point, and notes in the order in which they were made.

Each report makes a table of its own in one pass over the warnings: `summary` counts under each
kind, and `report` collects the warnings themselves.
-/

namespace ContractBindings.Log

/-- The notes of a severity. -/
def ofSeverity (severity : Severity) (notes : List Note) : List Note :=
  notes.filter (·.severity = severity)

/-- The warnings among notes. -/
def warnings (notes : List Note) : List Note :=
  ofSeverity .warning notes

/-- The notes that are no warnings. -/
def infos (notes : List Note) : List Note :=
  ofSeverity .info notes

/-- The table with one more note counted under its group. -/
def countOne (table : Table Nat) (n : Note) : Table Nat :=
  table.put n.group (table.getD n.group 0 + 1)

/-- The notes counted by group. -/
def count (notes : List Note) : Table Nat :=
  notes.foldl countOne []

/-- The table with one more note at the end of its group. -/
def collectOne (table : Table (List Note)) (n : Note) : Table (List Note) :=
  (table.setDefault n.group []).modify n.group (· ++ [n])

/-- The notes by group. -/
def collect (notes : List Note) : Table (List Note) :=
  notes.foldl collectOne []

/-- The warnings counted by group, on one line. -/
def summary (notes : List Note) : String :=
  if warnings notes = [] then
    "No generator warnings."
  else
    "Generator warnings: "
      ++ Text.commaSeparated
        ((count (warnings notes)).sorted.map fun (name, count) => toString count ++ " " ++ name)

/-- The lines on one group of warnings. -/
def groupLines (verbose : Bool) (name : String) (notes : List Note) : List String :=
  ("  " ++ name ++ ": " ++ toString notes.length ++ " occurrence(s)")
    :: if verbose then notes.map fun n => "    " ++ n.line else []

/-- The lines on all warnings, none when there are no warnings. -/
def warningLines (verbose : Bool) (notes : List Note) : List String :=
  if notes = [] then
    []
  else
    ["", "Generator warnings (" ++ toString notes.length ++ "):"]
      ++ (collect notes).sorted.flatMap fun (name, notes) => groupLines verbose name notes

/-- The lines on the notes that are no warnings, which a verbose report shows. -/
def infoLines (verbose : Bool) (notes : List Note) : List String :=
  if verbose ∧ notes ≠ [] then
    ["", "Generator info (" ++ toString notes.length ++ "):"]
      ++ notes.map fun n => "  " ++ n.line
  else
    []

/-- The lines of the report. -/
def reportLines (verbose : Bool) (notes : List Note) : List String :=
  warningLines verbose (warnings notes) ++ infoLines verbose (infos notes)

/-- The report, each line of which is ended by a line break. -/
def report (verbose : Bool) (notes : List Note) : String :=
  String.join ((reportLines verbose notes).map (· ++ "\n"))

end ContractBindings.Log
