import UtilityStyles.Lint.Reference
import UtilityStyles.Batch.Discover
import UtilityStyles.Resolver.Session
import UtilityStyles.Log
/-!
# Linting class attributes

Linting reports the utility classes that would have no effect. Every name in a class attribute
of a selected file is counted; a name that reads as a utility class is resolved in a window of
`1024` pixels. A class whose mode is not inert takes effect and is counted by mode. Otherwise:

* a known type under a prefix that is neither `hover` nor a breakpoint is an error in category
  `prefix`, with the breakpoint closest in spelling suggested when it is fewer than three edits
  away;
* an unknown type under a prefix is a warning in category `type`; without a prefix it is usually
  an ordinary class name and is reported, without severity, only in strict mode.

Issues are ordered by file, line and column (stably), then limited: first to a number of issues,
then to a number of issues with the same text.

## Main definitions

* `Severity`, `IssueCategory`, `Replacement`, `Issue`.
* `LintConfig`, `LintResult`, `LintError`, `lintRef`, `lintFile`, `lint`.
* `editDistance`, `suggestPrefix`, `limitIssues`.
-/

namespace UtilityStyles.Lint

open UtilityStyles.Class (parseClass)
open UtilityStyles.Text (quote)

/-- How much an issue matters. -/
inductive Severity where
  | error
  | warning
  /-- Reported without a severity. -/
  | info
  deriving Repr, BEq, DecidableEq, Inhabited

/-- The name of a severity; empty for `info`. -/
def Severity.name : Severity → String
  | .error => "error"
  | .warning => "warning"
  | .info => ""

/-- What an issue is about. -/
inductive IssueCategory where
  | unknownPrefix
  | unknownType
  deriving Repr, BEq, DecidableEq, Inhabited

/-- The name of a category. -/
def IssueCategory.name : IssueCategory → String
  | .unknownPrefix => "prefix"
  | .unknownType => "type"

/-- The categories in the order of their names. -/
def IssueCategory.all : List IssueCategory := [.unknownPrefix, .unknownType]

/-- A suggested fix: the text to put in place of `inlineLength` bytes at the issue. -/
structure Replacement where
  newText : String
  inlineLength : Nat
  deriving Repr, BEq, Inhabited

/-- A finding of the linter. -/
structure Issue where
  text : String
  severity : Severity
  category : IssueCategory
  sourceLines : List String
  file : String
  line : Nat
  column : Nat
  replacement : Option Replacement
  deriving Repr, BEq, Inhabited

/-- The name issues are reported under. -/
def linterName : String := "tenox"

/-- The Levenshtein distance between two texts, by bytes. -/
def editDistance (a b : String) : Nat :=
  let bs := b.toUTF8.toList
  let first : List Nat := List.range (bs.length + 1)
  let last := (a.toUTF8.toList.zipIdx.foldl (fun prev (x, i) =>
    let row := (bs.zip ((prev.zip prev.tail).zipIdx)).foldl (fun (cur : List Nat) (y, (diag, up), _) =>
      let left := cur.getLastD 0
      let cost := if x == y then 0 else 1
      cur ++ [min (min (up + 1) (left + 1)) (diag + cost)]) [i + 1]
    row) first)
  last.getLastD 0

/-- The breakpoint closest in spelling to a class's prefix, when fewer than three edits away
(the first of equally close ones), as a replacement of the whole class. -/
def suggestPrefix (bps : BreakpointTable) (tok : Token) (className : String) :
    Option Replacement :=
  let (best, _) := bps.entries.foldl (fun (best, dist) bp =>
    let d := editDistance tok.prefixName bp.name
    if d < dist then (bp.name, d) else (best, dist)) ("", 3)
  if best.isEmpty then none
  else some ⟨{ tok with prefixName := best }.render, className.utf8ByteSize⟩

/-- What a lint run is asked to do. -/
structure LintConfig where
  scanPaths : List String
  baseDir : String
  registry : Option Registry
  /-- The breakpoint table; none selects the default one. -/
  breakpoints : Option BreakpointTable
  /-- Also report unprefixed classes of unknown type. -/
  strict : Bool
  /-- The most issues reported; zero for no limit. -/
  maxIssuesPerLinter : Nat
  /-- The most issues with the same text reported; zero for no limit. -/
  maxSameIssues : Nat

/-- What a lint run found. `categorized` holds every issue in the order found, before ordering
and limits; `issues` the ordered, limited ones. -/
structure LintResult where
  issues : List Issue
  categorized : List Issue
  filesDiscovered : Nat
  filesSkipped : Nat
  filesScanned : Nat
  classesFound : Nat
  utility : Nat
  resolved : Nat
  modes : ModeCounts
  errorCount : Nat
  warningCount : Nat
  truncatedCount : Nat
  deriving Repr, Inhabited

/-- The issues of a category in the order found. -/
def LintResult.inCategory (r : LintResult) (c : IssueCategory) : List Issue :=
  r.categorized.filter (·.category == c)

/-- The categories that have issues, in the order of their names, with their issues. -/
def LintResult.byCategory (r : LintResult) : List (IssueCategory × List Issue) :=
  IssueCategory.all.filterMap fun c =>
    let is := r.inCategory c
    if is.isEmpty then none else some (c, is)

/-- The modes that resolved classes took, in the order of their names, with their counts. -/
def LintResult.modeCounts (r : LintResult) : List (String × Nat) :=
  ([Mode.hover, .immediate, .responsive].filterMap fun m =>
    let n := r.modes.get m
    if n == 0 then none else some (m.name, n))

/-- Why a lint run does nothing. -/
inductive LintError where
  | noRegistry
  | scan (e : Batch.DiscoverError)
  deriving Repr, BEq

/-- The message of a refused lint run. -/
def LintError.message : LintError → String
  | .noRegistry => "tenox: no property registry configured"
  | .scan e => "failed to scan files: " ++ e.message

/-- An issue about a reference. -/
def issueAt (path : String) (ref : ClassRef) (severity : Severity) (category : IssueCategory)
    (text : String) (replacement : Option Replacement) : Issue :=
  ⟨text, severity, category, [ref.text], path, ref.line, ref.column, replacement⟩

/-- Lints one reference: counts it, and records an issue when it would have no effect. -/
def lintRef (c : Context) (strict : Bool) (path : String) (r : LintResult) (ref : ClassRef) :
    LintResult :=
  let r := { r with classesFound := r.classesFound + 1 }
  match parseClass ref.className with
  | none => r
  | some tok =>
    let r := { r with utility := r.utility + 1 }
    let mode := c.modeOf tok
    if mode != .inert then
      { r with resolved := r.resolved + 1, modes := r.modes.record mode }
    else if !c.registry.knows tok.type then
      if tok.prefixName.isEmpty && !strict then r
      else
        let severity := if tok.prefixName.isEmpty then Severity.info else .warning
        let text := "unknown type " ++ quote tok.type ++ " in class " ++ quote ref.className
        { r with categorized := r.categorized ++ [issueAt path ref severity .unknownType text none] }
    else
      let text := "unknown prefix " ++ quote tok.prefixName ++ " in class " ++ quote ref.className
      let fix := suggestPrefix c.breakpoints tok ref.className
      { r with categorized := r.categorized ++ [issueAt path ref .error .unknownPrefix text fix] }

/-- Whether an issue comes before another: by file, then line, then column. -/
def Issue.before (a b : Issue) : Bool :=
  if a.file != b.file then a.file < b.file
  else if a.line != b.line then a.line < b.line
  else a.column < b.column

/-- Issues ordered by file, line and column, equal positions in their given order. -/
def sortIssues (is : List Issue) : List Issue :=
  is.mergeSort fun a b => !b.before a

/-- Keeps at most `maxSame` issues of each text, the first ones. -/
def keepSame (maxSame : Nat) (is : List Issue) : List Issue :=
  let step (acc : List Issue × List String) (i : Issue) : List Issue × List String :=
    if acc.2.count i.text < maxSame then (acc.1 ++ [i], acc.2 ++ [i.text]) else acc
  (is.foldl step ([], [])).1

/-- Issues limited to a number (zero for none) and then to a number per text (zero for none);
also the number of issues removed. -/
def limitIssues (maxIssues maxSame : Nat) (is : List Issue) : List Issue × Nat :=
  let first := if maxIssues > 0 && is.length > maxIssues then is.take maxIssues else is
  let kept := if maxSame > 0 then keepSame maxSame first else first
  (kept, is.length - kept.length)

/-- Lints one file of a run: counts it as scanned and lints its references, or logs why it
cannot be scanned. A file that cannot be read is passed over. -/
def lintFile (t : FileTree) (cwd : String) (cfg : LintConfig) (c : Context)
    (acc : LintResult × List LogEntry) (file : String) : LintResult × List LogEntry :=
  let (r, log) := acc
  match (t.fileText cwd file).map scanText with
  | some (.ok refs) =>
    let path := Batch.displayPath cfg.baseDir file
    (refs.foldl (lintRef c cfg.strict path) { r with filesScanned := r.filesScanned + 1 }, log)
  | some (.error e) =>
    (r, log ++ [⟨.warn, ["lint"], "failed to scan file", [("file", .text file), ("error", .text e)]⟩])
  | none => (r, log)

/-- Lints the files that the scan paths select. Returns the result and the log. -/
def lint (t : FileTree) (cwd : String) (cfg : LintConfig) :
    Except LintError (LintResult × List LogEntry) :=
  match cfg.registry with
  | none => .error .noRegistry
  | some registry =>
    let c : Context := ⟨registry, cfg.breakpoints.getD BreakpointTable.defaults, some 1024⟩
    match Batch.discover t cwd cfg.baseDir cfg.scanPaths with
    | .error e => .error (.scan e)
    | .ok d =>
      let start : LintResult :=
        ⟨[], [], d.discovered, d.skipped, 0, 0, 0, 0, ⟨0, 0, 0, 0⟩, 0, 0, 0⟩
      let (r, log) := d.files.foldl (lintFile t cwd cfg c) (start, [])
      let sorted := sortIssues r.categorized
      let (issues, truncated) :=
        if cfg.maxIssuesPerLinter > 0 || cfg.maxSameIssues > 0 then
          limitIssues cfg.maxIssuesPerLinter cfg.maxSameIssues sorted
        else (sorted, 0)
      .ok ({ r with issues, truncatedCount := truncated,
                    errorCount := issues.countP (·.severity == .error),
                    warningCount := issues.countP (·.severity == .warning) }, log)

end UtilityStyles.Lint
