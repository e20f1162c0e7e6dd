import UtilityStyles.Decimal.Read
import UtilityStyles.Decimal.Shortest
import UtilityStyles.Text.Csv
import UtilityStyles.Config.Value
/-!
# Command-line flags

A flag has a long name, perhaps a one-letter shorthand, a kind, a default and a usage line.
Truth flags need no value: naming one sets it. Values are read by kind: truth values and
numbers as literals (`Decimal.readBool`, `readFloat`, `readInt`), texts as they are, and lists
as one comma-separated record (`Text.readRecord`; the empty text is the empty list), where a
first value replaces the default and later ones add to it.

A flag set's usage lists its flags sorted by name, one a line: the names, the kind of value,
and after a gap that aligns the usage texts, the usage and the default when it is not the
kind's zero (a text's default in quotes).

## Main definitions

* `FlagKind`, `FlagValue`, `FlagSpec`, `FlagSetting`.
* `FlagSpec.read`, `FlagSetting.assign`, `FlagValue.toValue`.
* `flagUsages` : the usage lines of flags.
-/

namespace UtilityStyles.Cli

open UtilityStyles.Config (Value)

/-- The kinds of flag values. -/
inductive FlagKind where
  | bool
  | string
  | float
  | int
  | strings
  deriving Repr, BEq, DecidableEq, Inhabited

/-- The name of a kind's value in usage lines; empty for truth flags. -/
def FlagKind.valueName : FlagKind → String
  | .bool => ""
  | .string => "string"
  | .float => "float"
  | .int => "int"
  | .strings => "strings"

/-- The value of a flag. -/
inductive FlagValue where
  | bool (b : Bool)
  | string (s : String)
  | float (x : Float)
  | int (n : Int)
  | strings (xs : List String)
  deriving Inhabited

/-- A flag's value as a setting. -/
def FlagValue.toValue : FlagValue → Value
  | .bool b => .bool b
  | .string s => .str s
  | .float x => .float x
  | .int n => .int n
  | .strings xs => .list (xs.map Value.str)

/-- A flag's value as its default is written in usage lines. -/
def FlagValue.text : FlagValue → String
  | .bool b => if b then "true" else "false"
  | .string s => s
  | .float x => Decimal.generalText x
  | .int n => toString n
  | .strings xs => "[" ++ ",".intercalate xs ++ "]"

/-- A flag a command accepts. -/
structure FlagSpec where
  name : String
  shorthand : Option Char
  kind : FlagKind
  default : FlagValue
  usage : String
  deriving Inhabited

namespace FlagSpec

/-- A truth flag with a default. -/
def truth (name : String) (default : Bool) (usage : String) : FlagSpec :=
  ⟨name, none, .bool, .bool default, usage⟩

/-- A text flag with a default. -/
def text (name default usage : String) : FlagSpec :=
  ⟨name, none, .string, .string default, usage⟩

/-- A list flag, empty by default. -/
def list (name usage : String) : FlagSpec :=
  ⟨name, none, .strings, .strings [], usage⟩

/-- An integer flag, zero by default. -/
def integer (name usage : String) : FlagSpec :=
  ⟨name, none, .int, .int 0, usage⟩

/-- A float flag, zero by default. -/
def real (name usage : String) : FlagSpec :=
  ⟨name, none, .float, .float 0, usage⟩

/-- Whether a flag takes no value when named: truth flags. -/
def optionalValue (f : FlagSpec) : Bool := f.kind == .bool

/-- The flag as messages name it: `-v, --verbose`, or `--name` without a shorthand. -/
def displayName (f : FlagSpec) : String :=
  match f.shorthand with
  | some c => "-" ++ String.singleton c ++ ", --" ++ f.name
  | none => "--" ++ f.name

/-- Whether a flag's default is its kind's zero, which usage lines do not show. -/
def zeroDefault (f : FlagSpec) : Bool :=
  match f.kind with
  | .bool => f.default.text == "false"
  | .string => f.default.text == ""
  | .float | .int => f.default.text == "0"
  | .strings => f.default.text == "[]"

/-- Reads a value of the flag's kind from text; `current` is the value so far, and `given`
whether the command line gave one already (a list then grows). -/
def read (f : FlagSpec) (current : FlagValue) (given : Bool) (text : String) :
    Except String FlagValue :=
  match f.kind with
  | .bool =>
    match Decimal.readBool text with
    | some b => .ok (.bool b)
    | none => .error (Decimal.ReadError.message "ParseBool" text .malformed)
  | .string => .ok (.string text)
  | .float =>
    match Decimal.readFloat text with
    | .ok x => .ok (.float x)
    | .error e => .error (e.message "ParseFloat" text)
  | .int =>
    match Decimal.readInt text with
    | .ok n => .ok (.int n)
    | .error e => .error (e.message "ParseInt" text)
  | .strings =>
    let record := if text.isEmpty then .ok [] else Text.readRecord text
    match record with
    | .ok fields =>
      match current, given with
      | .strings old, true => .ok (.strings (old ++ fields))
      | _, _ => .ok (.strings fields)
    | .error e => .error e.message

/-- The head of the flag's usage line: its names and the kind of its value. -/
def usageHead (f : FlagSpec) : String :=
  let names := match f.shorthand with
    | some c => "  -" ++ String.singleton c ++ ", --" ++ f.name
    | none => "      --" ++ f.name
  if f.kind.valueName.isEmpty then names else names ++ " " ++ f.kind.valueName

/-- The tail of the flag's usage line: the usage and a default that is not zero. -/
def usageTail (f : FlagSpec) : String :=
  if f.zeroDefault then f.usage
  else if f.kind == .string then f.usage ++ " (default " ++ Text.quote f.default.text ++ ")"
  else f.usage ++ " (default " ++ f.default.text ++ ")"

end FlagSpec

/-- A flag during a run: its value and whether the command line set it. -/
structure FlagSetting where
  spec : FlagSpec
  value : FlagValue
  changed : Bool
  deriving Inhabited

/-- A flag at its default, not set. -/
def FlagSetting.fresh (f : FlagSpec) : FlagSetting := ⟨f, f.default, false⟩

/-- Sets a flag from text; the error names the value, the flag and the reason. -/
def FlagSetting.assign (s : FlagSetting) (text : String) : Except String FlagSetting :=
  match s.spec.read s.value s.changed text with
  | .ok v => .ok ⟨s.spec, v, true⟩
  | .error why =>
    .error ("invalid argument " ++ Text.quote text ++ " for " ++ Text.quote s.spec.displayName ++
      " flag: " ++ why)

/-- The usage lines of flags, sorted by name, each ending in a line break. -/
def flagUsages (flags : List FlagSpec) : String :=
  let sorted := flags.mergeSort fun a b => a.name ≤ b.name
  let width := sorted.foldl (fun w f => max w (f.usageHead.utf8ByteSize + 1)) 0
  String.join (sorted.map fun f =>
    f.usageHead ++ " " ++ String.ofList (List.replicate (width - f.usageHead.utf8ByteSize) ' ') ++
      " " ++ f.usageTail ++ "\n")

end UtilityStyles.Cli
