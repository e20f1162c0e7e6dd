import UtilityStyles.Cli.Help
import UtilityStyles.Settings.Build
import UtilityStyles.Yaml.Decode
import UtilityStyles.Report.Explain
/-!
# Running a command line

A run finds the command its line names, sets up the command's help flag, reads the line's flags,
and then either shows the help (when `--help` is given) or checks the positional arguments and
runs the command. Every failure is an error message; nothing is printed for it.

The styling commands (the top command, `apply`, `lint`, `explain`) first load their settings:
the settings file (`--config`, `.tenox.yaml` by default) when it exists, the `TENOX_*`
environment variables over it, and the flags the line gave over both. Their log lines go to a
log of their own: warnings and information, and debug lines too with `verbose`; none with
`quiet`.

* `apply` (and the top command) styles the documents. With neither an output directory nor a dry
  run, the documents go to standard output and the summary to standard error; otherwise the
  summary goes to standard output. A run where some file failed is an error naming the failures.
* `lint` reports the issues; it fails when an issue is an error, or, when strict, on any issue.
* `explain` explains every class of its arguments, in a window of the configured width.
* `init` writes a default settings file, unless one is there and `--force` is not given.
* `version` prints the version; `help` prints the help of the command its words name.

## Main definitions

* `Invocation`, `Outcome`, `Logger`.
* `defaultConfig`, `loadSettings`.
* `run` : one command line, in a process state and a file tree.
* `environmentBlock`, `changedEntries` : what a program reads and writes around a run.
-/

namespace UtilityStyles.Cli

open UtilityStyles.Settings
open UtilityStyles.Config (Value)

/-- A command line to run: its arguments, environment, working directory, and the time stamped
on JSON reports. -/
structure Invocation where
  args : List String
  env : List (String × String)
  cwd : String
  timestamp : String
  deriving Inhabited

/-- What a run printed and whether it failed. -/
structure Outcome where
  error : Option String
  stdout : String
  stderr : String
  log : String
  deriving Inhabited

/-- The exit code of a run: `1` when it failed. -/
def Outcome.exitCode (o : Outcome) : Nat := if o.error.isSome then 1 else 0

/-- A run that failed with a message and printed nothing. -/
def Outcome.failed (message : String) : Outcome := ⟨some message, "", "", ""⟩

/-- A run that succeeded and printed to standard output. -/
def Outcome.printed (out : String) : Outcome := ⟨none, out, "", ""⟩

/-- The version the program reports. -/
def versionText : String := "dev"

/-- The settings file `init` writes. -/
def defaultConfig : String :=
  "# tenox configuration\n" ++
    "\n" ++
    "verbose: false\n" ++
    "width: 1024          # viewport width used for breakpoint prefixes\n" ++
    "hover: false         # render elements in their hovered state\n" ++
    "more-color: false    # resolve bg-/tc-/border- rgb(), rgba() and hex classes\n" ++
    "no-defaults: false   # start from an empty property table\n" ++
    "\n" ++
    "# Extra class types, merged over the built-in table.\n" ++
    "properties:\n" ++
    "  card-gap: gap\n" ++
    "  pad-x: [paddingLeft, paddingRight]\n" ++
    "\n" ++
    "# Extra breakpoints, appended to max-sm, sm, max-md, md, max-lg, lg, max-xl, xl.\n" ++
    "breakpoints:\n" ++
    "  - name: tablet\n" ++
    "    min: 600\n" ++
    "    max: 900\n" ++
    "\n" ++
    "# Selector declarations applied after class attributes.\n" ++
    "styles:\n" ++
    "  nav:\n" ++
    "    a: \"tc-inherit td-none\"\n" ++
    "    \".active\": \"fw-600\"\n" ++
    "\n" ++
    "apply:\n" ++
    "  base-dir: .\n" ++
    "  include:\n" ++
    "    - \"**/*.html\"\n" ++
    "    - \"**/*.xhtml\"\n" ++
    "  output-dir: dist   # empty prints documents to stdout\n" ++
    "  dry-run: false\n" ++
    "  output-format: summary # summary | full | json\n" ++
    "\n" ++
    "lint:\n" ++
    "  paths:\n" ++
    "    - \"**/*.html\"\n" ++
    "  strict: false\n" ++
    "  output-format: issues  # issues | summary | full | json\n" ++
    "  max-issues-per-linter: 0\n" ++
    "  max-same-issues: 0\n" ++
    "  print-lines: true\n" ++
    "  print-linter-name: true\n"

/-- Which log lines a run writes, and how. -/
structure Logger where
  enabled : Bool
  verbose : Bool
  colored : Bool
  deriving Repr, Inhabited

/-- The logger the settings ask for. -/
def Logger.ofSettings (s : Store) (env : List (String × String)) : Logger :=
  ⟨!s.boolOr "quiet" "quiet" false, s.boolOr "verbose" "verbose" false, colorsWanted s env⟩

/-- The log lines of entries, each ending in a line break. -/
def Logger.write (lg : Logger) (entries : List LogEntry) : String :=
  if !lg.enabled then ""
  else
    let shown := entries.filter fun e => lg.verbose || e.level.rank ≥ LogLevel.info.rank
    let level := if lg.colored then LogLevel.coloredName else LogLevel.name
    String.join (shown.map fun e => e.renderWith level ++ "\n")

/-- What stands at a path, as the operating system sees it: a path ending in `/` names only a
directory. -/
def statKind (t : FileTree) (cwd p : String) : Option Bool :=
  match t.kindOf cwd p with
  | some false => if p.endsWith "/" then none else some false
  | k => k

/-- The text value of a flag, if it is a text flag. -/
def textFlag (flags : List FlagSetting) (name : String) : String :=
  match (findLong flags name).map (·.value) with
  | some (FlagValue.string s) => s
  | _ => ""

/-- The truth value of a flag. -/
def truthFlag (flags : List FlagSetting) (name : String) : Bool :=
  match (findLong flags name).map (·.value) with
  | some (FlagValue.bool b) => b
  | _ => false

/-- The settings file a line names. -/
def configPath (flags : List FlagSetting) : String :=
  let p := textFlag flags "config"
  if p.isEmpty then ".tenox.yaml" else p

/-- The settings of the settings file, or none when there is no such file. -/
def fileLayer (t : FileTree) (cwd path : String) : Except String (List (String × Value)) :=
  match statKind t cwd path with
  | none => .ok []
  | some true => .error ("loading config file " ++ path ++ ": read " ++ path ++ ": is a directory")
  | some false =>
    match Yaml.readSettings ((t.fileText cwd path).getD "") with
    | .ok members => .ok members
    | .error e => .error ("loading config file " ++ path ++ ": " ++ e.message)

/-- The settings of a run: the settings file, the environment over it, and the flags the line
gave over both. -/
def loadSettings (t : FileTree) (inv : Invocation) (flags : List FlagSetting) : Except String Store :=
  match fileLayer t inv.cwd (configPath flags) with
  | .error e => .error e
  | .ok file =>
    let given := (flags.filter (·.changed)).map fun f => (f.spec.name, f.value.toValue)
    .ok (Store.load [file, envLayer inv.env, given])

/-- Styles the documents. -/
def runApply (t : FileTree) (inv : Invocation) (s : Store) (args : List String) :
    FileTree × Outcome :=
  let lg := Logger.ofSettings s inv.env
  let (registry, warnings) := buildRegistry s
  match buildBreakpoints s with
  | .error e => (t, ⟨some e, "", "", lg.write warnings⟩)
  | .ok table =>
    let cfg := applyConfig s args registry table
    let announce : LogEntry := ⟨.debug, [], "apply",
      [("include", .texts cfg.includes), ("types", .int registry.size),
       ("output-dir", .text cfg.outputDir)]⟩
    match Batch.applyAll t inv.cwd cfg with
    | .error e =>
      (t, ⟨some ("apply failed: " ++ e.message), "", "", lg.write (warnings ++ [announce])⟩)
    | .ok (t', r, runLog) =>
      let log := lg.write (warnings ++ [announce] ++ runLog)
      let toStdout := cfg.outputDir.isEmpty && !cfg.dryRun
      let format := Report.OutputFormat.ofFlag (s.stringOr "output-format" "apply.output-format" "summary")
      let summary := if s.boolOr "quiet" "quiet" false then "" else Report.writeApply r format inv.timestamp
      let (out, err) := if toStdout then (Report.writeContent r, summary) else (summary, "")
      let error := if r.errors.isEmpty then none
        else some (toString r.errors.length ++ " of " ++ toString r.files.length ++
          " files failed: " ++ "; ".intercalate r.errors)
      (t', ⟨error, out, err, log⟩)

/-- Lints the documents. -/
def runLint (t : FileTree) (inv : Invocation) (s : Store) (args : List String) : Outcome :=
  let lg := Logger.ofSettings s inv.env
  let (registry, warnings) := buildRegistry s
  match buildBreakpoints s with
  | .error e => ⟨some e, "", "", lg.write warnings⟩
  | .ok table =>
    let cfg := lintConfig s args registry table
    match Lint.lint t inv.cwd cfg with
    | .error e => ⟨some ("lint failed: " ++ e.message), "", "", lg.write warnings⟩
    | .ok (r, runLog) =>
      let format := Report.OutputFormat.ofFlag (s.stringOr "output-format" "lint.output-format" "")
      let out := if s.boolOr "quiet" "quiet" false then ""
        else Report.writeLint r format (reportOptions s (colorsWanted s inv.env)) inv.timestamp
      let failed := r.errorCount > 0 || (cfg.strict && !r.issues.isEmpty)
      ⟨if failed then some "lint failed" else none, out, "", lg.write (warnings ++ runLog)⟩

/-- Explains the classes of the arguments. -/
def runExplain (inv : Invocation) (s : Store) (args : List String) : Outcome :=
  let lg := Logger.ofSettings s inv.env
  let (registry, warnings) := buildRegistry s
  match buildBreakpoints s with
  | .error e => ⟨some e, "", "", lg.write warnings⟩
  | .ok table =>
    let width := s.float "width"
    let c : Context := ⟨registry, table, some (if width ≤ 0 then 1024 else width)⟩
    let classes := args.flatMap Text.fields
    ⟨none, Report.explainText (classes.map c.explain), "", lg.write warnings⟩

/-- Writes the default settings file. -/
def runInit (t : FileTree) (cwd : String) (flags : List FlagSetting) : FileTree × Outcome :=
  let path := configPath flags
  if (statKind t cwd path).isSome && !truthFlag flags "force" then
    (t, .failed (path ++ " already exists (use --force to overwrite)"))
  else
    match t.writeFile cwd path defaultConfig with
    | .error e => (t, .failed ("writing config file: " ++ e))
    | .ok t' => (t', .printed ("Created " ++ path ++ "\n"))

/-- The state after a command's help is shown: showing the top command's lists its
subcommands. -/
def CommandState.showed (st : CommandState) (c : CommandName) : CommandState :=
  if c == .root then { st with sorted := true } else st

/-- Help on the command that words name. -/
def runHelp (st : CommandState) (words : List String) : CommandState × Outcome :=
  match findCommand st words with
  | .ok (c, _) =>
    let st := st.ready c.name
    (st.showed c.name, .printed (helpText st c))
  | .error _ => ({ st with sorted := true }, .printed (unknownTopic st words))

/-- Runs a command whose line has been read. -/
def execute (st : CommandState) (t : FileTree) (inv : Invocation) (c : Command) (p : Parsed) :
    CommandState × FileTree × Outcome :=
  let args := p.positional
  let styled (k : Store → FileTree × Outcome) : CommandState × FileTree × Outcome :=
    match loadSettings t inv p.flags with
    | .error e => (st, t, .failed e)
    | .ok s => let (t', o) := k s; (st, t', o)
  match c.name with
  | .root | .apply => styled fun s => runApply t inv s args
  | .lint => styled fun s => (t, runLint t inv s args)
  | .explain => styled fun s => (t, runExplain inv s args)
  | .init => let (t', o) := runInit t inv.cwd p.flags; (st, t', o)
  | .version => (st, t, .printed (programName ++ " " ++ versionText ++ "\n"))
  | .completion => (st, t, .printed "")
  | .help => let (st', o) := runHelp st args; (st', t, o)

/-- The variables of an environment block: entries `NAME=value` separated by NUL characters. -/
def environmentBlock (text : String) : List (String × String) :=
  (text.splitOn (String.singleton (Char.ofNat 0))).filterMap fun entry =>
    match entry.splitOn "=" with
    | name :: rest@(_ :: _) => if name.isEmpty then none else some (name, "=".intercalate rest)
    | _ => none

/-- The entries of a tree after a run that are new or changed, in the tree's order: what a run
leaves to be written. -/
def changedEntries (before after : FileTree) : List (String × Entry) :=
  after.entries.filter fun (p, e) => before.entryAt p != some e

/-- Runs a command line in a process state and a file tree: the state, the tree and the outcome
after it. -/
def run (st : CommandState) (t : FileTree) (inv : Invocation) : CommandState × FileTree × Outcome :=
  match findCommand st inv.args with
  | .error e => (st, t, .failed e)
  | .ok (c, rest) =>
    let st := st.ready c.name
    match parseArgs (c.flagsIn st) rest with
    | .error e => (st, t, .failed e.message)
    | .ok p =>
      if truthFlag p.flags "help" then (st.showed c.name, t, .printed (helpText st c))
      else
        match c.rule.check c.path p.positional with
        | some e => (st, t, .failed e)
        | none => execute st t inv c p

end UtilityStyles.Cli
