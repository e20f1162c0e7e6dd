import UtilityStyles.Settings.Store
import UtilityStyles.Batch.Apply
import UtilityStyles.Report.Lint
/-!
# What the settings configure

The settings of a run configure the property registry, the breakpoint table, the declared
styles, and the batch and lint runs.

* The registry is the default one, or an empty one with `no-defaults`, with the map
  `properties` defined over it; refused definitions are logged as warnings and skipped.
* The breakpoint table is the default one (an empty one with `no-defaults`) followed by the
  entries of `breakpoints`. Entries are read loosely: a single entry stands for a list of one,
  a name may be a number or a truth value (`1`, `0`), a bound may be a number, a truth value or
  numeric text (empty text is `0`). Every entry that cannot be read is reported, and every entry
  needs a name.
* Styles are the map `styles`, if it is one.
* Most settings are read under their flag's name first and then under their section's name.

## Main definitions

* `buildRegistry`, `decodeBreakpoints`, `buildBreakpoints`, `buildStyles`.
* `applyConfig`, `lintConfig`, `reportOptions`, `colorsWanted`.
-/

namespace UtilityStyles.Settings

open UtilityStyles.Config (Value)

/-- The registry the settings configure, and the warnings about refused definitions. -/
def buildRegistry (s : Store) : Registry × List LogEntry :=
  let base := if s.bool "no-defaults" then Registry.empty else Registry.defaults
  match s.get? "properties" with
  | some (.map defs) =>
    let (r, errs) := base.defineAll defs
    (r, errs.map fun e => ⟨.warn, [], "skipping property definition", [("error", .text e.message)]⟩)
  | _ => (base, [])

/-- The kind of a value as the entry decoder names it. -/
def decodeKind : Value → String
  | .null => "invalid"
  | .bool _ => "bool"
  | .int _ => "int"
  | .float _ => "float64"
  | .str _ => "string"
  | .list _ => "slice"
  | .map _ => "map"

/-- A field of an entry: the member under the field's name, else the first whose key matches it
ignoring case. -/
def fieldOf (members : List (String × Value)) (field : String) : Option Value :=
  match members.find? (·.1 == field) with
  | some (_, v) => some v
  | none => (members.find? fun (k, _) => Text.lowerText k == field).map (·.2)

/-- The name of an entry read loosely. -/
def looseName (path : String) : Option Value → Except String String
  | none | some .null => .ok ""
  | some (.str s) => .ok s
  | some (.bool b) => .ok (if b then "1" else "0")
  | some (.int n) => .ok (toString n)
  | some (.float x) => .ok (Decimal.fixedText x)
  | some v => .error (Text.inApostrophes path ++ " expected type " ++ Text.inApostrophes "string" ++
      ", got unconvertible type " ++ Text.inApostrophes v.kindName)

/-- A bound of an entry read loosely. -/
def looseBound (path : String) : Option Value → Except String (Option Float)
  | none | some .null => .ok none
  | some (.int n) => .ok (some (Float.ofInt n))
  | some (.float x) => .ok (some x)
  | some (.bool b) => .ok (some (if b then 1 else 0))
  | some (.str s) =>
    match Decimal.readFloat (if s.isEmpty then "0" else s) with
    | .ok x => .ok (some x)
    | .error e =>
      let why := match e with
        | .malformed => "invalid syntax"
        | .range _ => "value out of range"
      .error (Text.inApostrophes path ++ " cannot parse value as " ++ Text.inApostrophes "float64" ++
        ": strconv.ParseFloat: " ++ why)
  | some v => .error (Text.inApostrophes path ++ " expected type " ++ Text.inApostrophes "float64" ++
      ", got unconvertible type " ++ Text.inApostrophes v.kindName)

/-- One entry of the breakpoint list, or the reasons it cannot be read. -/
def decodeEntry (path : String) : Value → Except (List String) Breakpoint
  | .null => .ok ⟨"", none, none⟩
  | .map ms =>
    let name := looseName (path ++ ".name") (fieldOf ms "name")
    let lo := looseBound (path ++ ".min") (fieldOf ms "min")
    let hi := looseBound (path ++ ".max") (fieldOf ms "max")
    match name, lo, hi with
    | .ok n, .ok l, .ok h => .ok ⟨n, l, h⟩
    | _, _, _ =>
      let errs := (match name with | .error e => [e] | .ok _ => []) ++
        (match lo with | .error e => [e] | .ok _ => []) ++
        (match hi with | .error e => [e] | .ok _ => [])
      .error errs
  | v => .error [Text.inApostrophes path ++ " expected a map or struct, got \"" ++ decodeKind v ++ "\""]

/-- The entries of the breakpoint setting: a list, or a single entry standing for a list of
one (an empty map for none). -/
def decodeBreakpoints (v : Value) : Except String (List Breakpoint) :=
  let items : List Value := match v with
    | .null => []
    | .list items => items
    | .map [] => []
    | other => [other]
  let results := items.zipIdx.map fun (item, i) => decodeEntry ("[" ++ toString i ++ "]") item
  let errs := results.flatMap fun r => match r with
    | .error es => es
    | .ok _ => []
  if !errs.isEmpty then
    .error ("decoding failed due to the following error(s):\n\n" ++ "\n".intercalate errs)
  else
    let entries := results.filterMap fun r => match r with
      | .ok b => some b
      | .error _ => none
    match entries.zipIdx.find? (fun (b, _) => b.name.isEmpty) with
    | some (_, i) => .error ("entry " ++ toString i ++ " has no name")
    | none => .ok entries

/-- The breakpoint table the settings configure. -/
def buildBreakpoints (s : Store) : Except String BreakpointTable :=
  let base := if s.bool "no-defaults" then BreakpointTable.mk [] else BreakpointTable.defaults
  if !s.has "breakpoints" then .ok base
  else
    match decodeBreakpoints ((s.node? "breakpoints").getD .null) with
    | .ok extra => .ok (base.append extra)
    | .error e => .error ("config breakpoints: " ++ e)

/-- The declared styles: the map `styles`, if it is one. -/
def buildStyles (s : Store) : List (String × Value) :=
  match s.get? "styles" with
  | some (.map ms) => ms
  | _ => []

/-- The patterns a run works on: the arguments, else the first nonempty list setting, else every
HTML and XHTML file. -/
def patternsOf (s : Store) (args : List String) (names : List String) : List String :=
  if !args.isEmpty then args
  else
    match names.find? (fun n => !(s.strings n).isEmpty) with
    | some n => s.strings n
    | none => ["**/*.html", "**/*.xhtml"]

/-- The batch run the settings configure. -/
def applyConfig (s : Store) (args : List String) (registry : Registry) (table : BreakpointTable) :
    Batch.ApplyConfig :=
  { includes := patternsOf s args ["include", "apply.include"],
    baseDir := s.stringOr "base-dir" "apply.base-dir" ".",
    outputDir := s.stringOr "output-dir" "apply.output-dir" "",
    dryRun := s.boolOr "dry-run" "apply.dry-run" false,
    width := s.float "width",
    hover := s.boolOr "hover" "hover" false,
    moreColor := s.boolOr "more-color" "more-color" false,
    styles := buildStyles s,
    registry := some registry,
    breakpoints := some table }

/-- The lint run the settings configure. -/
def lintConfig (s : Store) (args : List String) (registry : Registry) (table : BreakpointTable) :
    Lint.LintConfig :=
  { scanPaths := patternsOf s args ["paths", "lint.paths"],
    baseDir := s.stringOr "base-dir" "apply.base-dir" ".",
    registry := some registry,
    breakpoints := some table,
    strict := s.boolOr "strict" "lint.strict" false,
    maxIssuesPerLinter := (s.intOr "max-issues-per-linter" "lint.max-issues-per-linter" 0).toNat,
    maxSameIssues := (s.intOr "max-same-issues" "lint.max-same-issues" 0).toNat }

/-- The report options the settings configure, for a report styled or not. -/
def reportOptions (s : Store) (styled : Bool) : Report.LintOptions :=
  { printLines := s.boolOr "print-lines" "lint.print-lines" true,
    printLinterName := s.boolOr "print-linter-name" "lint.print-linter-name" true,
    styled }

/-- Whether output is coloured: `no-color` forbids it, `color` asks for it; else the
environment decides: `NO_COLOR` set forbids it, and `FORCE_COLOR` set or `GITHUB_ACTIONS=true`
asks for it. Output that goes to no terminal is otherwise plain. -/
def colorsWanted (s : Store) (env : List (String × String)) : Bool :=
  let set (name : String) : Bool := match env.lookup name with
    | some v => !v.isEmpty
    | none => false
  if s.boolOr "no-color" "no-color" false then false
  else if s.boolOr "color" "color" false then true
  else if set "NO_COLOR" then false
  else if set "FORCE_COLOR" then true
  else env.lookup "GITHUB_ACTIONS" == some "true"

end UtilityStyles.Settings
