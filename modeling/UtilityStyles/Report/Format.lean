/-!
# Report formats

Lint and apply results are written in one of four formats: `issues` (the issues, the default),
`summary` (statistics only), `full` (issues and statistics) and `json`. A flag value that names
none of them selects `issues`.

## Main definitions

* `OutputFormat`, `OutputFormat.ofFlag`, `OutputFormat.name`.
-/

namespace UtilityStyles.Report

/-- How results are written. -/
inductive OutputFormat where
  | issues
  | summary
  | full
  | json
  deriving Repr, BEq, DecidableEq, Inhabited

namespace OutputFormat

/-- The flag value naming a format. -/
def name : OutputFormat → String
  | issues => "issues"
  | summary => "summary"
  | full => "full"
  | json => "json"

/-- The format a flag value names; `issues` for any other value. -/
def ofFlag (flag : String) : OutputFormat :=
  match [summary, full, json].find? (·.name == flag) with
  | some f => f
  | none => issues

end OutputFormat

end UtilityStyles.Report
