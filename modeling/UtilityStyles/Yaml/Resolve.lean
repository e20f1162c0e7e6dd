import UtilityStyles.Yaml.Token
import UtilityStyles.Decimal.Read
import UtilityStyles.Config.Value
/-!
# What plain YAML scalars mean

A plain scalar is read by its spelling. These spellings are fixed:

* null: empty, `~`, `null`, `Null`, `NULL`;
* truth values: `true`, `True`, `TRUE`, `false`, `False`, `FALSE`;
* special floats: `.nan`, `.inf` and `-.inf`, in lower case, capitalised or in capitals, and
  `+.inf`.

Otherwise a text that starts with a digit or a sign is tried, underscores removed, as an
integer with a base prefix (`0x`, `0o`, `0b`, or a leading `0` for octal), as a number too large
for a signed integer but fitting an unsigned one, and then as a decimal float (`1.5`, `.5`,
`1e3`, …) that a double can hold. A text that starts with a point may be a float. Everything
else is a string; so are `yes`, `no`, `on` and `off`.

An explicit standard tag asks for a kind: the text must resolve to it (an integer may stand for
a float), except `!!str`, which takes any text.

## Main definitions

* `resolvePlain` : the tag and value of a plain scalar.
* `resolveTagged` : the tag and value of a scalar with a tag.
-/

namespace UtilityStyles.Yaml

open UtilityStyles.Config (Value)

/-- Whether a text is a decimal float in YAML's syntax. -/
def yamlFloatSyntax (s : String) : Bool :=
  let cs := match s.toList with
    | '+' :: r | '-' :: r => r
    | r => r
  let ds (l : List Char) := l.takeWhile isDigit
  let (mantissaOk, rest) : Bool × List Char :=
    match cs with
    | '.' :: r =>
      let f := ds r
      (!f.isEmpty, r.drop f.length)
    | _ =>
      let i := ds cs
      let r := cs.drop i.length
      match r with
      | '.' :: r' => (!i.isEmpty, r'.drop (ds r').length)
      | _ => (!i.isEmpty, r)
  let expOk := match rest with
    | [] => true
    | e :: r =>
      if e == 'e' || e == 'E' then
        let r := match r with
          | '+' :: r' | '-' :: r' => r'
          | r' => r'
        !r.isEmpty && r.all isDigit
      else false
  mantissaOk && expOk

/-- An unsigned integer literal below `2 ^ 64`, with a base prefix or a leading `0` for octal. -/
def unsignedLiteral (s : String) : Option Nat :=
  let (base, digits) : Nat × List Char :=
    match s.toList with
    | '0' :: b :: c :: r =>
      if b == 'x' || b == 'X' then (16, c :: r) else if b == 'o' || b == 'O' then (8, c :: r)
      else if b == 'b' || b == 'B' then (2, c :: r) else (8, b :: c :: r)
    | r => (10, r)
  match Decimal.digitsValue base digits with
  | some v => if v < Nat.pow 2 64 then some v else none
  | none => none

/-- The spellings with a fixed meaning. -/
def fixedSpellings : List (String × String × Value) :=
  [("", "!!null", .null), ("~", "!!null", .null), ("null", "!!null", .null),
   ("Null", "!!null", .null), ("NULL", "!!null", .null),
   ("true", "!!bool", .bool true), ("True", "!!bool", .bool true), ("TRUE", "!!bool", .bool true),
   ("false", "!!bool", .bool false), ("False", "!!bool", .bool false),
   ("FALSE", "!!bool", .bool false),
   (".nan", "!!float", .float (0 / 0)), (".NaN", "!!float", .float (0 / 0)),
   (".NAN", "!!float", .float (0 / 0)),
   (".inf", "!!float", .float (1 / 0)), (".Inf", "!!float", .float (1 / 0)),
   (".INF", "!!float", .float (1 / 0)),
   ("+.inf", "!!float", .float (1 / 0)), ("+.Inf", "!!float", .float (1 / 0)),
   ("+.INF", "!!float", .float (1 / 0)),
   ("-.inf", "!!float", .float (-1 / 0)), ("-.Inf", "!!float", .float (-1 / 0)),
   ("-.INF", "!!float", .float (-1 / 0))]

/-- Whether the first character of a text hints at a non-string meaning. -/
def hinted (s : String) : Bool :=
  match s.toList with
  | [] => true
  | c :: _ => c == '+' || c == '-' || c == '.' || isDigit c || "yYnNtTfFoO~".toList.contains c

/-- The tag and value of a plain scalar. -/
def resolvePlain (s : String) : String × Value :=
  let str : String × Value := ("!!str", .str s)
  if !hinted s then str
  else
    match fixedSpellings.find? (·.1 == s) with
    | some (_, tag, v) => (tag, v)
    | none =>
      match s.toList with
      | '.' :: _ =>
        match Decimal.readFloat s with
        | .ok x => ("!!float", .float x)
        | .error _ => str
      | c :: _ =>
        if isDigit c || c == '+' || c == '-' then
          let plain := String.ofList (s.toList.filter (· != '_'))
          match Decimal.readInt plain with
          | .ok n => ("!!int", .int n)
          | .error _ =>
            match unsignedLiteral plain with
            | some n => ("!!int", .int n)
            | none =>
              if yamlFloatSyntax plain then
                match Decimal.readFloat plain with
                | .ok x => ("!!float", .float x)
                | .error _ => str
              else str
        else str
      | [] => str

/-- The tags whose texts are resolved. -/
def resolvable (tag : String) : Bool :=
  ["", "!!str", "!!bool", "!!int", "!!float", "!!null", "!!timestamp"].contains tag

/-- The tag and value of a scalar with a tag (in short form): the text must resolve to the tag's
kind. -/
def resolveTagged (tag s : String) : Except YamlError (String × Value) :=
  if !resolvable tag then .ok (tag, .str s)
  else
    let (rtag, v) := if tag == "!!str" then ("!!str", Value.str s) else resolvePlain s
    if tag == "" || tag == rtag || tag == "!!str" then .ok (rtag, v)
    else
      match tag, v with
      | "!!float", .int n => .ok ("!!float", .float (Float.ofInt n))
      | _, _ => .error (.failure ("cannot decode " ++ rtag ++ " " ++ String.singleton (Char.ofNat 96) ++ s ++
          String.singleton (Char.ofNat 96) ++ " as a " ++ tag))

end UtilityStyles.Yaml
