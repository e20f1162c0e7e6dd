/-!
# Log entries

The library reports what it skips or cannot do as log entries: a level, the name of the part
that wrote it (dot-separated, as parts nest), a message and named fields. Entries are data; a
program decides which levels to show and writes each as one line:
`LEVEL<tab>name<tab>message<tab>{"key": value, …}`, the name and the fields left out when
there are none. On a terminal that shows colours, a level's name is wrapped in the escape codes
of its colour: magenta for debug, blue for info, yellow for warnings and red for errors. Field texts are quoted with backslash escapes for `"`, `\`, line feeds, carriage
returns, tabs, and `\u00XX` for the other control characters.

## Main definitions

* `LogLevel`, `LogValue`, `LogEntry`, `LogEntry.render`, `LogEntry.renderWith`.
-/

namespace UtilityStyles

/-- How much a log entry matters. -/
inductive LogLevel where
  | debug
  | info
  | warn
  | error
  deriving Repr, BEq, DecidableEq, Inhabited

/-- The name of a level as written. -/
def LogLevel.name : LogLevel → String
  | .debug => "DEBUG"
  | .info => "INFO"
  | .warn => "WARN"
  | .error => "ERROR"

/-- The terminal colour code of a level. -/
def LogLevel.colorCode : LogLevel → Nat
  | .debug => 35
  | .info => 34
  | .warn => 33
  | .error => 31

/-- The name of a level in its colour's escape codes. -/
def LogLevel.coloredName (l : LogLevel) : String :=
  "\x1b[" ++ toString l.colorCode ++ "m" ++ l.name ++ "\x1b[0m"

/-- The rank of a level; an entry is shown when its rank reaches the threshold's. -/
def LogLevel.rank : LogLevel → Nat
  | .debug => 0
  | .info => 1
  | .warn => 2
  | .error => 3

/-- The value of a log field. -/
inductive LogValue where
  | text (s : String)
  | int (n : Int)
  | texts (xs : List String)
  deriving Repr, BEq, Inhabited

/-- A log entry. -/
structure LogEntry where
  level : LogLevel
  name : List String
  message : String
  fields : List (String × LogValue)
  deriving Repr, Inhabited

/-- The lowercase hex digit of a number below sixteen. -/
def logHexDigit (n : Nat) : Char :=
  if n < 10 then Char.ofNat (48 + n) else Char.ofNat (87 + n)

/-- A text quoted for a log field. -/
def logQuote (s : String) : String :=
  let body := s.toList.flatMap fun c =>
    if c == '"' then ['\\', '"']
    else if c == '\\' then ['\\', '\\']
    else if c == '\n' then ['\\', 'n']
    else if c == '\r' then ['\\', 'r']
    else if c == '\t' then ['\\', 't']
    else if c.toNat < 0x20 then
      ['\\', 'u', '0', '0', logHexDigit (c.toNat / 16), logHexDigit (c.toNat % 16)]
    else [c]
  "\"" ++ String.ofList body ++ "\""

/-- The text of a field value. -/
def LogValue.render : LogValue → String
  | .text s => logQuote s
  | .int n => toString n
  | .texts xs => "[" ++ ", ".intercalate (xs.map logQuote) ++ "]"

/-- The entry under a further name: the part that wrote it sits inside `outer`. -/
def LogEntry.within (outer : String) (e : LogEntry) : LogEntry :=
  { e with name := outer :: e.name }

/-- The line of an entry, without its line break, its level written by `levelText`. -/
def LogEntry.renderWith (levelText : LogLevel → String) (e : LogEntry) : String :=
  let name := ".".intercalate e.name
  let head := levelText e.level ++ (if name.isEmpty then "" else "\t" ++ name) ++ "\t" ++ e.message
  if e.fields.isEmpty then head
  else
    head ++ "\t\x7b" ++ ", ".intercalate (e.fields.map fun (k, v) => logQuote k ++ ": " ++ v.render) ++ "\x7d"

/-- The line of an entry, without its line break. -/
def LogEntry.render (e : LogEntry) : String :=
  e.renderWith LogLevel.name

end UtilityStyles
