import UtilityStyles.Cli.Command
import UtilityStyles.Text.Blank
/-!
# Help and usage texts

A command's usage shows how it is called, its examples, the subcommands (for the top command),
its flags and the global flags; its help puts its description (the long one, else the short one)
before the usage. Flags are listed by `flagUsages`; the top command lists every flag it takes
under `Flags:`, a subcommand its own flags there and the global ones under `Global Flags:`. The
help flag is listed once it is set up.

## Main definitions

* `Command.useLine`, `usageText`, `helpText`, `unknownTopic`.
-/

namespace UtilityStyles.Cli

/-- A text without its trailing blanks. -/
def trimEnd (s : String) : String :=
  String.ofList (s.toList.reverse.dropWhile Text.isBlank).reverse

/-- A text padded with spaces to a width. -/
def padTo (s : String) (width : Nat) : String :=
  s ++ String.ofList (List.replicate (width - s.length) ' ')

/-- How a command is called: its path and use, and a mark that it takes flags. -/
def Command.useLine (c : Command) : String :=
  let line := if c.name == .root then c.use else programName ++ " " ++ c.use
  if (line.splitOn "[flags]").length > 1 then line else line ++ " [flags]"

/-- The usage of a command in a state. -/
def usageText (st : CommandState) (c : Command) : String :=
  let isTop := c.name == .root
  let help := if st.helpReady.contains c.name then [helpFlag c] else []
  let own := if isTop then c.flags ++ globalFlags ++ help else c.flags ++ help
  let inherited := if isTop then [] else globalFlags
  let listed := (subcommands true).map fun n =>
    "\n  " ++ padTo (command n).word 11 ++ " " ++ (command n).short
  "Usage:\n  " ++ c.useLine ++
    (if isTop then "\n  " ++ programName ++ " [command]" else "") ++
    (if c.examples.isEmpty then "" else "\n\nExamples:\n" ++ c.examples) ++
    (if isTop then "\n\nAvailable Commands:" ++ String.join listed else "") ++
    (if own.isEmpty then "" else "\n\nFlags:\n" ++ trimEnd (flagUsages own)) ++
    (if inherited.isEmpty then "" else "\n\nGlobal Flags:\n" ++ trimEnd (flagUsages inherited)) ++
    (if isTop then
      "\n\nUse \"" ++ programName ++ " [command] --help\" for more information about a command."
     else "") ++ "\n"

/-- The help of a command in a state: its description, then its usage. -/
def helpText (st : CommandState) (c : Command) : String :=
  let about := trimEnd (if c.long.isEmpty then c.short else c.long)
  (if about.isEmpty then "" else about ++ "\n\n") ++ usageText st c

/-- Whether a word can stand between backquotes: no backquote, no control character but the tab,
and no byte order mark. -/
def backquotable (s : String) : Bool :=
  s.toList.all fun c =>
    (c.toNat ≥ 0x20 || c == '\t') && c.toNat != 96 && c.toNat != 0x7F && c.toNat != 0xFEFF

/-- The words of an unknown help topic: each between backquotes when it can be, else quoted. -/
def topicText (words : List String) : String :=
  let bq := String.singleton (Char.ofNat 96)
  "[" ++ " ".intercalate (words.map fun w => if backquotable w then bq ++ w ++ bq else Text.quote w) ++
    "]"

/-- The answer to help on a topic that names no command: a line naming the topic, then the top
command's usage. -/
def unknownTopic (st : CommandState) (words : List String) : String :=
  "Unknown help topic " ++ topicText words ++ "\n" ++ usageText st (command .root)

end UtilityStyles.Cli
