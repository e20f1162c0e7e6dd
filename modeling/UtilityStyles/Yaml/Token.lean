import UtilityStyles.Text.Quote
/-!
# Tokens of a YAML stream

A YAML text is read in steps: a scanner cuts it into tokens, a parser builds a tree of nodes
from the tokens, and the tree is decoded into values. This module holds what the steps share:
positions in the text, the tokens, the classes of characters, and the errors.

A position (`Mark`) counts characters, lines and columns from zero. Errors carry two positions,
the start of the construct being read (the context) and the place of the problem, and their
message names one line: the context's when it is not the first line, else the problem's. A
scanner has moved past the line it names when it stops, so its lines are counted from one;
a parser's are reported as they stand.

## Main definitions

* `Mark`, `ScalarStyle`, `TokenKind`, `Token`.
* `YamlError`, `YamlError.message`.
* `isBreak`, `isBlank`, `isBlankZ`, `isWordChar`, `hexValue`.
-/

namespace UtilityStyles.Yaml

/-- A position in the text: characters from the start, and the line and column, from zero. -/
structure Mark where
  index : Nat
  line : Nat
  column : Nat
  deriving Repr, BEq, Inhabited

/-- How a scalar was written. -/
inductive ScalarStyle where
  | plain
  | singleQuoted
  | doubleQuoted
  | literal
  | folded
  deriving Repr, BEq, Inhabited

/-- What a token is. -/
inductive TokenKind where
  | streamStart
  | streamEnd
  | versionDirective (major minor : Nat)
  | tagDirective (handle pfx : String)
  | documentStart
  | documentEnd
  | blockSequenceStart
  | blockMappingStart
  | blockEnd
  | flowSequenceStart
  | flowSequenceEnd
  | flowMappingStart
  | flowMappingEnd
  | blockEntry
  | flowEntry
  | key
  | value
  | alias (name : String)
  | anchor (name : String)
  | tag (handle suffix : String)
  | scalar (text : String) (style : ScalarStyle)
  deriving Repr, BEq, Inhabited

/-- A token and where it starts and stops. -/
structure Token where
  kind : TokenKind
  start : Mark
  stop : Mark
  deriving Repr, Inhabited

/-- Why a YAML text cannot be read. -/
inductive YamlError where
  /-- The text holds a character that YAML does not allow. -/
  | reader (problem : String)
  /-- The text cannot be cut into tokens. -/
  | scanner (context : String) (contextMark : Mark) (problem : String) (problemMark : Mark)
  /-- The tokens do not form a document. -/
  | parser (context : String) (contextMark : Mark) (problem : String) (problemMark : Mark)
  /-- The document cannot be built or read. -/
  | failure (message : String)
  /-- Values of the document do not fit where they go. -/
  | unmarshal (errors : List String)
  deriving Repr, Inhabited

/-- The line an error names, counted as its step counts it; zero when it names none. -/
def errorLine (contextMark problemMark : Mark) (fromOne : Bool) : Nat :=
  let shift := if fromOne then 1 else 0
  if contextMark.line != 0 then contextMark.line + shift
  else if problemMark.line != 0 then problemMark.line + shift
  else 0

/-- The text before a problem: `line N: ` when the error names a line. -/
def linePrefix (n : Nat) : String :=
  if n = 0 then "" else "line " ++ toString n ++ ": "

/-- The message of an error. -/
def YamlError.message : YamlError → String
  | .reader p => "yaml: " ++ p
  | .scanner _ cm p pm => "yaml: " ++ linePrefix (errorLine cm pm true) ++ p
  | .parser _ cm p pm => "yaml: " ++ linePrefix (errorLine cm pm false) ++ p
  | .failure m => "yaml: " ++ m
  | .unmarshal es => "yaml: unmarshal errors:\n  " ++ "\n  ".intercalate es

/-- The character that stands for the end of the text. -/
def endChar : Char := Char.ofNat 0

/-- A line break. -/
def isBreak (c : Char) : Bool :=
  c == '\r' || c == '\n' || c.toNat == 0x85 || c.toNat == 0x2028 || c.toNat == 0x2029

/-- A blank: a space or a tab. -/
def isBlank (c : Char) : Bool := c == ' ' || c == '\t'

/-- A blank, a line break, or the end of the text. -/
def isBlankZ (c : Char) : Bool := isBlank c || isBreak c || c == endChar

/-- A line break or the end of the text. -/
def isBreakZ (c : Char) : Bool := isBreak c || c == endChar

/-- A character of anchors, handles and directive names: an ASCII letter or digit, `_` or `-`. -/
def isWordChar (c : Char) : Bool :=
  ('0' ≤ c && c ≤ '9') || ('A' ≤ c && c ≤ 'Z') || ('a' ≤ c && c ≤ 'z') || c == '_' || c == '-'

/-- An ASCII digit. -/
def isDigit (c : Char) : Bool := '0' ≤ c && c ≤ '9'

/-- The value of a hexadecimal digit. -/
def hexValue (c : Char) : Option Nat :=
  if '0' ≤ c && c ≤ '9' then some (c.toNat - 48)
  else if 'a' ≤ c && c ≤ 'f' then some (c.toNat - 87)
  else if 'A' ≤ c && c ≤ 'F' then some (c.toNat - 55)
  else none

/-- Whether YAML allows a character in a text: tab, line feed, carriage return, printable
ASCII, next line, and the printable planes of Unicode. -/
def allowedChar (c : Char) : Bool :=
  let n := c.toNat
  n == 0x09 || n == 0x0A || n == 0x0D || (0x20 ≤ n && n ≤ 0x7E) || n == 0x85 ||
    (0xA0 ≤ n && n ≤ 0xD7FF) || (0xE000 ≤ n && n ≤ 0xFFFD) || (0x10000 ≤ n && n ≤ 0x10FFFF)

end UtilityStyles.Yaml
