import UtilityStyles.Registry.Basic
import UtilityStyles.Class.Token
/-!
# Resolving a value against the registry

A type, a value and a unit resolve to a list of *writes*, one per target of the type, in
target order. A chain kind appends `fn(valueunit)` to the current value of its property, where
the current value is the one an earlier target of the same resolution wrote, or else the one
the element holds. A `[--name]` type writes the custom property `--name` with `valueunit`; an
unknown type writes nothing.

A value for a direct property is formatted as follows: `$name` is `var(--name)`; a bracketed
value `[…]` is its inside with every `\_` read as a space, wrapped as `var(…)` when the inside
starts with `--`; anything else is the value followed by the unit.

## Main definitions

* `Write` : one property assignment.
* `formatValue` : the text of a direct value.
* `Target.format` : the text a target writes.
* `Registry.resolve` : the writes of a type, value and unit.
-/

namespace UtilityStyles

/-- One inline style assignment; `custom` writes go through the custom property setter. -/
structure Write where
  property : String
  value : String
  custom : Bool
  deriving Repr, BEq, DecidableEq, Inhabited

/-- The text written to a direct property. -/
def formatValue (value unit : String) : String :=
  if value.startsWith "$" then "var(--" ++ (value.drop 1).copy ++ ")"
  else if value.startsWith "[" && value.endsWith "]" then
    let inner := (String.ofList ((value.toList.drop 1).dropLast)).replace "\\_" " "
    if inner.startsWith "--" then "var(" ++ inner ++ ")" else inner
  else value ++ unit

/-- `fn` appended to a chain after a blank; an empty chain (after trimming) is just `fn`. -/
def appendFunc (existing fn : String) : String :=
  let e := Text.trimBlank existing
  if e.isEmpty then fn else e ++ " " ++ fn

/-- The text a target writes for a value and unit, given the current values of properties. -/
def Target.format (t : Target) (value unit : String) (current : String → String) : String :=
  match t.kind with
  | .filter | .backdropFilter | .transform =>
    appendFunc (current t.property) (t.func ++ "(" ++ value ++ unit ++ ")")
  | .gridTemplate => "repeat(" ++ value ++ unit ++ ", 1fr)"
  | .gridAutoFit => "repeat(auto-fit, minmax(" ++ value ++ unit ++ ", 1fr))"
  | .flexShorthand => t.func ++ " " ++ value ++ unit
  | .direct => formatValue value unit

/-- The value of `p` after the writes `pending` (the latest write wins), or else `current p`. -/
def readThrough (pending : List Write) (current : String → String) (p : String) : String :=
  match pending.reverse.find? (·.property == p) with
  | some w => w.value
  | none => current p

/-- The writes of a list of targets, each seeing the writes before it. -/
def resolveTargets (value unit : String) (current : String → String) :
    List Write → List Target → List Write
  | done, [] => done
  | done, t :: rest =>
    let w : Write := ⟨t.property, t.format value unit (readThrough done current), false⟩
    resolveTargets value unit current (done ++ [w]) rest

/-- The writes a type, value and unit produce, in target order. -/
def Registry.resolve (r : Registry) (type value unit : String) (current : String → String) :
    List Write :=
  if isCustomType type then [⟨customPropertyOf type, value ++ unit, true⟩]
  else
    match r.targets? type with
    | none => []
    | some ts => resolveTargets value unit current [] ts

end UtilityStyles
