import UtilityStyles.Batch.Apply
import UtilityStyles.Report.Format
import UtilityStyles.Json
/-!
# Reports of a batch run

A batch run is reported as a summary of its totals, as the summary after a list of its files
(`full`), or as a JSON document. Text reports carry no colours. Documents kept as content are
reported on their own, each after a comment that names its source when there are several files.

## Main definitions

* `applySummary`, `applyJson`, `writeApply`, `writeContent`.
-/

namespace UtilityStyles.Report

open UtilityStyles.Batch (ApplyResult FileOutcome)

/-- The schema version of JSON reports. -/
def jsonVersion : String := "1.0"

/-- A section header: a blank line, the title and a rule. -/
def sectionHeader (title : String) : String :=
  "\n" ++ title ++ "\n------------------------\n"

/-- The lines of one file in the file list. -/
def fileLines (f : FileOutcome) : String :=
  match f.error with
  | some e => "✗ " ++ f.path ++ "\n    " ++ e ++ "\n"
  | none =>
    "✓ " ++ f.path ++ ": " ++ toString f.elementsStyled ++ " elements, " ++
      toString f.classesApplied ++ " classes applied, " ++ toString f.classesIgnored ++
      " ignored\n" ++ (if f.output.isEmpty then "" else "    → " ++ f.output ++ "\n")

/-- The summary of a batch run, after the list of its files when `verbose`. -/
def applySummary (r : ApplyResult) (verbose : Bool) : String :=
  let files := if verbose then sectionHeader "Files" ++ String.join (r.files.map fileLines) else ""
  let failed := r.files.length - r.filesScanned
  files ++ sectionHeader "Apply Summary" ++
    "Files Discovered:  " ++ toString r.filesDiscovered ++ "\n" ++
    "Files Processed:   " ++ toString r.filesScanned ++ "\n" ++
    (if r.filesSkipped > 0 then "Files Ignored:     " ++ toString r.filesSkipped ++ "\n" else "") ++
    (if failed > 0 then "Files Failed:      " ++ toString failed ++ "\n" else "") ++
    "Files Written:     " ++ toString r.filesWritten ++ "\n" ++
    "Elements Styled:   " ++ toString r.elementsStyled ++ "\n" ++
    "Classes Applied:   " ++ toString r.classesApplied ++ "\n" ++
    "Classes Ignored:   " ++ toString r.classesIgnored ++ "\n" ++
    "Listeners:         " ++ toString r.listeners ++ "\n"

/-- The JSON document of one file; the output and the error only when there are. -/
def fileJson (f : FileOutcome) : Json :=
  .obj ([("path", .str f.path)] ++
    (if f.output.isEmpty then [] else [("output", .str f.output)]) ++
    [("elements_styled", .nat f.elementsStyled), ("classes_applied", .nat f.classesApplied),
     ("classes_ignored", .nat f.classesIgnored)] ++
    (match f.error with
     | some e => if e.isEmpty then [] else [("error", .str e)]
     | none => []))

/-- The JSON document of a batch run, stamped with a time. -/
def applyJson (r : ApplyResult) (timestamp : String) : Json :=
  .obj [("version", .str jsonVersion), ("timestamp", .str timestamp),
    ("summary", .obj [("files_discovered", .nat r.filesDiscovered),
      ("files_processed", .nat r.filesScanned), ("files_skipped", .nat r.filesSkipped),
      ("files_written", .nat r.filesWritten), ("elements_styled", .nat r.elementsStyled),
      ("classes_applied", .nat r.classesApplied), ("classes_ignored", .nat r.classesIgnored),
      ("listeners", .nat r.listeners)]),
    ("files", .arr (r.files.map fileJson))]

/-- The report of a batch run in a format. -/
def writeApply (r : ApplyResult) (format : OutputFormat) (timestamp : String) : String :=
  if format == .json then (applyJson r timestamp).indented
  else applySummary r (format == .full)

/-- The documents kept as content, each after a comment naming its source when the run had
several files. -/
def writeContent (r : ApplyResult) : String :=
  String.join (r.files.map fun f =>
    if f.error.isSome || f.content.isEmpty then ""
    else (if r.files.length > 1 then "<!-- " ++ f.path ++ " -->\n" else "") ++ f.content)

end UtilityStyles.Report
