import UtilityStyles.Resolver.Explain
import UtilityStyles.Report.Category
import UtilityStyles.Decimal.Shortest
/-!
# Explanations as text

An explanation is written as the class on a line of its own, then indented lines: the class's
parts (an empty prefix or unit shows as `-`), its mode, the range of its breakpoint and whether
the window is in it, the kind of each target that is not a plain property, and the declarations
it writes grouped by category. Explanations are separated by blank lines.

## Main definitions

* `Report.explanationText`, `Report.explainText`.
-/

namespace UtilityStyles.Report

/-- A text, or `-` when it is empty. -/
def orDash (s : String) : String := if s.isEmpty then "-" else s

/-- The range of a breakpoint: `lo px – hi px`, with `0` and `∞` for absent bounds. -/
def rangeText (b : Breakpoint) : String :=
  let lo := (b.min.map Decimal.fixedText).getD "0"
  let hi := (b.max.map Decimal.fixedText).getD "∞"
  lo ++ "px – " ++ hi ++ "px"

/-- The lines of one explanation, each ending in a line break. -/
def explanationText (ex : Explanation) : String :=
  let head := ex.className ++ "\n"
  match ex.token with
  | none => head ++ "  not a utility class\n"
  | some tok =>
    let parts := "  prefix: " ++ orDash tok.prefixName ++ "\n" ++
      "  type:   " ++ tok.type ++ "\n" ++
      "  value:  " ++ tok.value ++ "\n" ++
      "  unit:   " ++ orDash tok.unit ++ "\n" ++
      "  mode:   " ++ ex.mode.name ++ "\n"
    let range := match ex.breakpoint with
      | some b => "  range:  " ++ rangeText b ++ " (" ++ (if ex.active then "active" else "inactive") ++ ")\n"
      | none => ""
    let kinds := String.join (ex.targets.filterMap fun t =>
      if t.kind == .direct then none else some ("  kind:   " ++ t.kind.name ++ " " ++ t.func ++ "\n"))
    let groups := String.join ((categorizeWrites ex.writes).map fun (c, ws) =>
      "  " ++ c.name ++ "\n" ++
        String.join (ws.map fun cw => "    " ++ cw.write.property ++ ": " ++ cw.write.value ++ ";\n"))
    head ++ parts ++ range ++ kinds ++ groups

/-- Explanations one after another, separated by blank lines. -/
def explainText (exs : List Explanation) : String :=
  "\n".intercalate (exs.map explanationText)

end UtilityStyles.Report
