import UtilityStyles.Config.Value
import UtilityStyles.Decimal.Shortest
import UtilityStyles.Decimal.Read
/-!
# Loosely typed values as text and as settings

Settings are looked up by the type the caller wants, whatever type the value arrived with. A
value is first written as text the way a general-purpose formatter writes it (`Value.text`):
`<nil>`, `true`, integers in decimal, floats in their shortest form, strings as they are, lists
as `[a b]` and maps as `map[k:v …]` with their keys in order. Then:

* a string setting is a string as it is, anything else as its text;
* a truth setting is a truth value as it is, else its text read as a truth value, else false;
* an integer setting is an integer as it is, else its text read as a float and cut toward zero
  (the least 64-bit integer when out of range), else zero;
* a float setting is a float as it is, else its text read as a float (an infinity when too
  large), else zero;
* a list setting is a list, each item a string as it is or else its text; anything else is an
  empty list.

## Main definitions

* `Value.text`.
* `Value.asString`, `Value.asBool`, `Value.asInt`, `Value.asFloat`, `Value.asStrings`.
-/

namespace UtilityStyles.Config

namespace Value

mutual

/-- The text of a value. -/
def text : Value → String
  | null => "<nil>"
  | bool b => if b then "true" else "false"
  | int n => toString n
  | float x => Decimal.generalText x
  | str s => s
  | list items => "[" ++ " ".intercalate (itemTexts items) ++ "]"
  | map members =>
    let sorted := (memberTexts members).mergeSort fun a b => decide (a.1 ≤ b.1)
    "map[" ++ " ".intercalate (sorted.map fun (k, v) => k ++ ":" ++ v) ++ "]"

/-- The texts of a list's items. -/
def itemTexts : List Value → List String
  | [] => []
  | v :: rest => text v :: itemTexts rest

/-- The keys and value texts of a map's members. -/
def memberTexts : List (String × Value) → List (String × String)
  | [] => []
  | (k, v) :: rest => (k, text v) :: memberTexts rest

end

/-- A value as a string setting. -/
def asString : Value → String
  | str s => s
  | v => v.text

/-- A value as a truth setting. -/
def asBool : Value → Bool
  | bool b => b
  | v => (Decimal.readBool v.text).getD false

/-- A float cut toward zero to a 64-bit integer; the least one when out of range or not a
number. -/
def truncate (x : Float) : Int :=
  if x.isNaN || x ≥ 9223372036854775808.0 || x < -9223372036854775808.0 then -9223372036854775808
  else if x ≥ 0 then (x.floor.toUInt64.toNat : Int)
  else -((-x).floor.toUInt64.toNat : Int)

/-- A value as an integer setting. -/
def asInt : Value → Int
  | int n => n
  | v =>
    match Decimal.readFloat v.text with
    | .ok x => truncate x
    | .error _ => 0

/-- A value as a float setting. -/
def asFloat : Value → Float
  | float x => x
  | v =>
    match Decimal.readFloat v.text with
    | .ok x => x
    | .error (.range x) => x
    | .error .malformed => 0

/-- A value as a list setting. -/
def asStrings : Value → List String
  | list items => items.map asString
  | _ => []

end Value

end UtilityStyles.Config
