import UtilityStyles.Cli.Parse
import UtilityStyles.Lint.Basic
/-!
# The commands of `tenox`

`tenox` styles documents when run alone, and has the subcommands `apply`, `explain`, `lint`,
`init`, `completion`, `version` and `help`. Every command takes the global flags; the top command
also takes the flags of `apply`. A command gets its `--help` (`-h`) flag when it first runs or
its help is asked for, and keeps it from then on: a process that runs several command lines
remembers this, and also whether it has listed its subcommands, which puts them in name order.

The command a line names is found before its flags are read: the first argument that is neither
a flag nor a flag's value names a subcommand, and is taken out of the line. A flag's value is the
next argument unless the flag is a truth flag, given with `=`, or unknown and long; an unknown
shorthand takes the next argument too. For the top command, a word that names no subcommand is
an error, with the subcommands spelt like it as suggestions: those at most two edits away
(ignoring case) or starting with it.

## Main definitions

* `CommandName`, `ArgRule`, `Command`, `CommandState`.
* `command`, `subcommands`, `globalFlags`, `helpFlag`, `Command.flagsIn`.
* `stripFlags`, `withoutFirst`, `suggestions`, `findCommand`, `ArgRule.check`.
-/

namespace UtilityStyles.Cli

/-- The commands. -/
inductive CommandName where
  | root
  | apply
  | explain
  | lint
  | init
  | completion
  | version
  | help
  deriving Repr, BEq, DecidableEq, Inhabited

/-- How a command checks its positional arguments. -/
inductive ArgRule where
  /-- Any arguments; for the top command, none may look like a subcommand. -/
  | any
  /-- At least a number of arguments. -/
  | atLeast (n : Nat)
  /-- Exactly one argument, one of the valid ones. -/
  | oneOf (valid : List String)
  deriving Repr, Inhabited

/-- A command: its name, how it is used and described, its own flags and its rule for
arguments. -/
structure Command where
  name : CommandName
  word : String
  use : String
  short : String
  long : String
  examples : String
  flags : List FlagSpec
  rule : ArgRule
  deriving Inhabited

/-- What a process remembers between command lines. -/
structure CommandState where
  /-- The commands whose help flag is set up. -/
  helpReady : List CommandName
  /-- Whether the subcommands have been put in name order. -/
  sorted : Bool
  deriving Repr, Inhabited

/-- The state of a fresh process. -/
def CommandState.initial : CommandState := ⟨[], false⟩

/-- The state after a command's help flag is set up. -/
def CommandState.ready (st : CommandState) (c : CommandName) : CommandState :=
  if st.helpReady.contains c then st else { st with helpReady := st.helpReady ++ [c] }

/-- The program's name. -/
def programName : String := "tenox"

/-- The flags every command takes. -/
def globalFlags : List FlagSpec :=
  [{ FlagSpec.truth "verbose" false "Enable verbose logging" with shorthand := some 'v' },
   .truth "quiet" false "Suppress all output (exit code only)",
   .truth "color" false "Force color output",
   .truth "no-color" false "Disable color output",
   .text "config" ".tenox.yaml" "Config file path",
   .real "width" "Viewport width in pixels (0 = 1024)",
   .truth "no-defaults" false "Start from an empty property table"]

/-- The flags of a styling run. -/
def applyFlags : List FlagSpec :=
  [.list "include" "Glob patterns for documents to process",
   .text "base-dir" "." "Directory patterns, outputs and .gitignore are relative to",
   .text "output-dir" "" "Directory for rendered documents (empty = stdout)",
   .truth "dry-run" false "Resolve without writing anything",
   .truth "hover" false "Render every element in its hovered state",
   .truth "more-color" false "Also resolve bg-/tc-/border- rgb(), rgba() and hex classes",
   .text "output-format" "" "Summary format: summary|full|json"]

/-- The flags of a lint run. -/
def lintFlags : List FlagSpec :=
  [.list "paths" "File patterns to scan for class attributes",
   .text "base-dir" "." "Directory patterns and .gitignore are relative to",
   .truth "strict" false "Also report unprefixed classes with unknown types, and fail on any issue",
   .text "output-format" "" "Output format: issues|summary|full|json",
   .integer "max-issues-per-linter" "Max issues to show (0=unlimited)",
   .integer "max-same-issues" "Max repeated issues to show (0=unlimited)",
   .truth "print-lines" true "Show source lines with issues",
   .truth "print-linter-name" true "Show (tenox) suffix on issues"]

/-- The valid arguments of `completion`. -/
def shells : List String := ["bash", "zsh", "fish", "powershell"]

/-- A command's description. -/
def command : CommandName → Command
  | .root => ⟨.root, programName, programName,
      "Utility-class style resolver for XHTML documents",
      "Resolve utility class names such as \"p-10px\", \"md:bg-$accent\" or\n" ++
        "\"hover:rotate-45deg\" into inline styles.\n" ++
        "Breakpoint prefixes follow the viewport width, hover prefixes the pointer.",
      "", applyFlags, .any⟩
  | .apply => ⟨.apply, "apply", "apply [patterns...]", "Apply utility classes to XHTML documents",
      "Resolve the utility classes of every element into inline styles.\n" ++
        "Documents are written under --output-dir, or printed to stdout when no\n" ++
        "output directory is configured.",
      "", applyFlags, .any⟩
  | .explain => ⟨.explain, "explain", "explain <class>...", "Show how class names resolve",
      "Parse each class name and print its parts, how it would be applied,\n" ++
        "and the declarations it writes. Responsive classes are evaluated against\n" ++
        "--width.",
      "  tenox explain p-10px md:bg-$accent hover:rotate-45deg\n" ++
        "  tenox explain --width 500 max-sm:d-none",
      [], .atLeast 1⟩
  | .lint => ⟨.lint, "lint", "lint [patterns...]", "Report utility classes that would have no effect",
      "Scan class attributes for utility classes with an unknown breakpoint\n" ++
        "prefix or an unregistered type.",
      "", lintFlags, .any⟩
  | .init => ⟨.init, "init", "init", "Generate a default .tenox.yaml config file",
      "Create a .tenox.yaml configuration file in the current directory with sensible defaults.",
      "", [.truth "force" false "Overwrite existing config file"], .any⟩
  | .completion => ⟨.completion, "completion", "completion [bash|zsh|fish|powershell]",
      "Generate shell completion scripts",
      "Generate shell completion scripts for tenox commands and flags.",
      "", [], .oneOf shells⟩
  | .version => ⟨.version, "version", "version", "Print the version of tenox", "", "", [], .any⟩
  | .help => ⟨.help, "help", "help [command]", "Help about any command",
      "Help provides help for any command in the application.\n" ++
        "Simply type tenox help [path to command] for full details.",
      "", [], .any⟩

/-- The subcommands, in the order they are listed: as added, or by name once sorted. The help
command comes last until sorted. -/
def subcommands (sorted : Bool) : List CommandName :=
  if sorted then [.apply, .completion, .explain, .help, .init, .lint, .version]
  else [.apply, .explain, .lint, .init, .completion, .version, .help]

/-- The subcommands as a command line is matched against them: a listing sorts them, but the
help command is added again, last, before each line is read. -/
def lookupOrder (sorted : Bool) : List CommandName :=
  (subcommands sorted).filter (· != .help) ++ [.help]

/-- The help flag of a command. -/
def helpFlag (c : Command) : FlagSpec :=
  { FlagSpec.truth "help" false ("help for " ++ c.word) with shorthand := some 'h' }

/-- The flags a command takes in a state: its own, the global ones, and its help flag once set
up. -/
def Command.flagsIn (c : Command) (st : CommandState) : List FlagSpec :=
  c.flags ++ globalFlags ++ (if st.helpReady.contains c.name then [helpFlag c] else [])

/-- Whether an argument is a flag that takes the next argument as its value: a long flag that
is not a known truth flag, or a two-character shorthand that is not one, either without `=`. -/
def takesNext (flags : List FlagSpec) (s : String) : Bool :=
  let long := s.startsWith "--" && !s.contains '=' &&
    !((flags.find? (·.name == (s.drop 2).toString)).map (·.optionalValue)).getD false
  let short := s.startsWith "-" && !s.contains '=' && s.utf8ByteSize == 2 &&
    !((flags.find? fun f => f.shorthand == (s.drop 1).toString.toList.head?).map
      (·.optionalValue)).getD false
  long || short

/-- The words of a command line that are neither flags nor flag values, up to `--`. A flag
taking a value that is second to last, or last, ends the search. -/
def stripFlags (flags : List FlagSpec) : List String → List String
  | [] => []
  | s :: rest =>
    if s == "--" then []
    else if takesNext flags s then
      match rest with
      | [] | [_] => []
      | _ :: tail => stripFlags flags tail
    else if s != "" && !s.startsWith "-" then s :: stripFlags flags rest
    else stripFlags flags rest

/-- A command line without the first word `x` that is neither a flag nor a flag value; the line
itself when there is none before `--`. -/
def withoutFirst (flags : List FlagSpec) (x : String) : List String → List String
  | [] => []
  | s :: rest =>
    if s == "--" then s :: rest
    else if takesNext flags s then
      match rest with
      | v :: rest' => s :: v :: withoutFirst flags x rest'
      | [] => [s]
    else if !s.startsWith "-" && s == x then rest
    else s :: withoutFirst flags x rest

/-- The subcommands spelt like a word, in lookup order: at most two edits away ignoring case, or
starting with it ignoring case. The help command is never suggested. -/
def suggestions (sorted : Bool) (word : String) : List String :=
  let lower := Text.lowerText word
  ((subcommands sorted).filter (· != .help)).filterMap fun n =>
    let w := (command n).word
    if Lint.editDistance lower (Text.lowerText w) ≤ 2 || (Text.lowerText w).startsWith lower then
      some w
    else none

/-- The error about a word that names no subcommand. -/
def unknownCommand (sorted : Bool) (word : String) : String :=
  let sugg := suggestions sorted word
  "unknown command " ++ Text.quote word ++ " for " ++ Text.quote programName ++
    (if sugg.isEmpty then ""
     else "\n\nDid you mean this?\n" ++ String.join (sugg.map fun s => "\t" ++ s ++ "\n"))

/-- The command a command line names and the arguments left for it, or the error about a word
that names no subcommand. -/
def findCommand (st : CommandState) (args : List String) : Except String (Command × List String) :=
  let top := command .root
  let topFlags := top.flagsIn st
  let found : Command × List String :=
    match stripFlags topFlags args with
    | next :: _ =>
      match (lookupOrder st.sorted).find? fun n => (command n).word == next with
      | some n => (command n, withoutFirst topFlags next args)
      | none => (top, args)
    | [] => (top, args)
  let (c, rest) := found
  if c.name == .root then
    match stripFlags topFlags rest with
    | word :: _ => .error (unknownCommand st.sorted word)
    | [] => .ok found
  else .ok found

/-- The error about a command's positional arguments, if any. -/
def ArgRule.check (rule : ArgRule) (path : String) (args : List String) : Option String :=
  match rule with
  | .any => none
  | .atLeast n =>
    if args.length < n then
      some ("requires at least " ++ toString n ++ " arg(s), only received " ++ toString args.length)
    else none
  | .oneOf valid =>
    if args.length != 1 then
      some ("accepts 1 arg(s), received " ++ toString args.length)
    else
      match args.find? (fun a => !valid.contains a) with
      | some a => some ("invalid argument " ++ Text.quote a ++ " for " ++ Text.quote path)
      | none => none

/-- The path of a command as usage lines write it. -/
def Command.path (c : Command) : String :=
  if c.name == .root then programName else programName ++ " " ++ c.word

end UtilityStyles.Cli
