/-!
# Loosely typed configuration values

Property definitions, bulk style declarations and configuration files arrive as loosely typed
values: the shape a JSON or YAML document takes before anything checks it. Numbers keep whether
they were written as integers (YAML) or as floating point numbers (YAML floats and every JSON
number), because messages about a wrong value name its kind.

## Main definitions

* `Value` : the values.
* `Value.kindName` : the kind named in messages about a value of the wrong shape.
* `Value.stringList?` : a string, or a list of strings, as a list.
-/

namespace UtilityStyles.Config

/-- A loosely typed value. Objects keep their members in the order given. -/
inductive Value where
  | null
  | bool (b : Bool)
  | int (n : Int)
  | float (x : Float)
  | str (s : String)
  | list (items : List Value)
  | map (members : List (String × Value))
  deriving Inhabited

namespace Value

/-- The kind of a value as messages name it. -/
def kindName : Value → String
  | null => "<nil>"
  | bool _ => "bool"
  | int _ => "int"
  | float _ => "float64"
  | str _ => "string"
  | list _ => "[]interface {}"
  | map _ => "map[string]interface {}"

/-- The string items of a list, if every item is a string. -/
def strings? : List Value → Option (List String)
  | [] => some []
  | str s :: rest => (strings? rest).map (s :: ·)
  | _ :: _ => none

/-- A string as a one-element list, or a list of strings as it is; `none` for anything else. -/
def stringList? : Value → Option (List String)
  | str s => some [s]
  | list items => strings? items
  | _ => none

end Value

end UtilityStyles.Config
