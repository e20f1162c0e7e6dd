import UtilityStyles.Lint.Basic
import UtilityStyles.Report.Apply
import UtilityStyles.Decimal.Places
/-!
# Reports of a lint run

A lint run is reported as its issues and a summary of their counts (`issues`), as statistics of
the classes found (`summary`), as all three (`full`), or as a JSON document. Text reports carry no
colour codes; styled for a terminal, the tabs of an issue line's parts widen to four spaces.

An issue is one line, `file:line:column: text`, with the suggested fix and the linter's name
when asked; with source lines, the line follows, indented by a tab, and a caret under the
column, whose padding keeps the line's tabs.

## Main definitions

* `LintOptions`, `issueLines`, `caretLine`, `lintSummary`, `lintStatistics`, `lintJson`,
  `writeLint`.
-/

namespace UtilityStyles.Report

open UtilityStyles.Lint (Issue LintResult)
open UtilityStyles.Text (quote)

/-- What a text report of issues shows besides the issues. -/
structure LintOptions where
  /-- The source line and a caret under each issue. -/
  printLines : Bool
  /-- The linter's name after each issue. -/
  printLinterName : Bool
  /-- Whether the issue lines are styled for a terminal: styled text has its tabs widened to
  four spaces. -/
  styled : Bool
  deriving Repr, Inhabited

/-- Text as a terminal style writes it: when styled, each tab becomes four spaces. -/
def paint (styled : Bool) (s : String) : String :=
  if styled then s.replace "\t" "    " else s

/-- A caret under a column of a line: the padding keeps the tabs of the line up to the column
and puts a blank for every other character (every byte of a cut character). -/
def caretLine (line : String) (column : Nat) : String :=
  if column = 0 then "^"
  else
    let limit := min (column - 1) line.utf8ByteSize
    let (pad, _) := line.toList.foldl (fun (pad, used) c =>
      if used + c.utf8Size ≤ limit then
        (pad ++ [if c == '\t' then '\t' else ' '], used + c.utf8Size)
      else if used < limit then (pad ++ List.replicate (limit - used) ' ', limit)
      else (pad, used)) ([], 0)
    String.ofList pad ++ "^"

/-- The lines of one issue. -/
def issueLines (o : LintOptions) (i : Issue) : String :=
  let location := i.file ++ ":" ++ toString i.line ++ ":" ++ toString i.column ++ ":"
  let fix := match i.replacement with
    | some r => "; did you mean " ++ quote r.newText ++ "?"
    | none => ""
  let suffix := if o.printLinterName then " (" ++ Lint.linterName ++ ")" else ""
  let head := paint o.styled location ++ " " ++ paint o.styled (i.text ++ fix) ++
    paint o.styled suffix ++ "\n"
  if o.printLines && !i.sourceLines.isEmpty then
    head ++ String.join (i.sourceLines.map fun l => "\t" ++ l ++ "\n") ++
      "\t" ++ paint o.styled (caretLine (i.sourceLines.headD "") i.column) ++ "\n"
  else head

/-- A count with the singular or plural noun. -/
def pluralize (n : Nat) (singular plural : String) : String :=
  toString n ++ " " ++ (if n = 1 then singular else plural)

/-- The summary of the issues: their number, the severities when both occur, the truncated ones,
the count per category, and a hint. -/
def lintSummary (r : LintResult) : String :=
  let total := r.issues.length
  let both := if r.errorCount > 0 && r.warningCount > 0 then
      [pluralize r.errorCount "error" "errors" ++ ", " ++ pluralize r.warningCount "warning" "warnings"]
    else []
  let truncated := if r.truncatedCount > 0 then
      [pluralize r.truncatedCount "issue" "issues" ++ " truncated"]
    else []
  let details := both ++ truncated
  let head := pluralize total "issue" "issues" ++
    (if details.isEmpty then "" else " (" ++ "; ".intercalate details ++ ")") ++ ":\n"
  "\n" ++ head ++
    String.join (r.byCategory.map fun (c, is) => "* " ++ c.name ++ ": " ++ toString is.length ++ "\n") ++
    (if total > 0 then "\nHint: Run with --output-format full to see statistics\n" else "")

/-- A text padded with blanks on the right to a width. -/
def padRight (s : String) (width : Nat) : String :=
  s ++ String.ofList (List.replicate (width - s.length) ' ')

/-- The share of `n` in `total` in percent; zero when the total is. -/
def percent (n total : Nat) : Float :=
  if total = 0 then 0 else Float.ofNat n / Float.ofNat total * 100

/-- The statistics of the classes a lint run found. -/
def lintStatistics (r : LintResult) : String :=
  sectionHeader "Lint Statistics" ++
    "Files Scanned:     " ++ toString r.filesScanned ++ "\n" ++
    (if r.filesSkipped > 0 then "Files Ignored:     " ++ toString r.filesSkipped ++ "\n" else "") ++
    "Classes Found:     " ++ toString r.classesFound ++ "\n" ++
    "Utility Classes:   " ++ toString r.utility ++ "\n" ++
    "Resolved:          " ++ toString r.resolved ++ " (" ++
      Decimal.placesText (percent r.resolved r.utility) 1 ++ "%)\n" ++
    String.join (r.modeCounts.map fun (m, n) => "  " ++ padRight (m ++ ":") 15 ++ " " ++ toString n ++ "\n")

/-- The JSON document of one issue; the source line and the suggestion only when there are. -/
def issueJson (i : Issue) : Json :=
  let source := i.sourceLines.headD ""
  let suggestion := (i.replacement.map (·.newText)).getD ""
  .obj ([("file", .str i.file), ("line", .nat i.line), ("column", .nat i.column),
    ("severity", .str i.severity.name), ("message", .str i.text), ("linter", .str Lint.linterName)] ++
    (if source.isEmpty then [] else [("source", .str source)]) ++
    (if suggestion.isEmpty then [] else [("suggestion", .str suggestion)]))

/-- The JSON document of a lint run, stamped with a time. -/
def lintJson (r : LintResult) (timestamp : String) : Json :=
  .obj [("version", .str jsonVersion), ("timestamp", .str timestamp),
    ("summary", .obj [("total_issues", .nat r.issues.length), ("errors", .nat r.errorCount),
      ("warnings", .nat r.warningCount), ("truncated", .nat r.truncatedCount),
      ("files_scanned", .nat r.filesScanned)]),
    ("stats", .obj [("classes_found", .nat r.classesFound), ("utility_classes", .nat r.utility),
      ("resolved", .nat r.resolved),
      ("modes", .obj (r.modeCounts.map fun (m, n) => (m, .nat n)))]),
    ("issues", .arr (r.issues.map issueJson))]

/-- The report of a lint run in a format. -/
def writeLint (r : LintResult) (format : OutputFormat) (o : LintOptions) (timestamp : String) :
    String :=
  let issues := String.join ((Lint.sortIssues r.issues).map (issueLines o))
  match format with
  | .json => (lintJson r timestamp).indented
  | .summary => lintStatistics r
  | .full => issues ++ lintSummary r ++ lintStatistics r
  | .issues => issues ++ lintSummary r

end UtilityStyles.Report
