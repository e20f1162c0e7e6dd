import UtilityStyles.Text.Case
/-!
# Targets: where a class type writes

A type is defined by a list of properties. Each property compiles to a *target*: the CSS property
written and the *kind* of value written there. Three property names are tags for function
chains rather than CSS properties: `ftr` (or `filter`) appends `type(value)` to `filter`,
`bFt` (or `backdropFilter`, `backdrop-filter`) appends to `backdrop-filter`, and `tra` (or
`transform`) appends to `transform`. The backdrop and transform chains know a fixed set of
types, each with its CSS function; for any other type the pair compiles to nothing. Other
property names are written in kebab case; the grid and flex types get their own value shapes.

## Main definitions

* `kebabCase` : `backgroundColor` to `background-color`.
* `TargetKind`, `Target` : the compiled destinations.
* `compileTarget` : the target of a type and one of its properties, if it has one.
-/

namespace UtilityStyles

/-- A property name in kebab case: every upper-case letter becomes `-` and its lower-case form
(no `-` before the first character). Names starting with `--` are kept as they are. -/
def kebabCase (property : String) : String :=
  if property.startsWith "--" then property
  else
    let step : Nat × List Char → Char → Nat × List Char := fun (i, acc) c =>
      if Text.isUpper c then
        (i + 1, (if i > 0 then acc ++ ['-'] else acc) ++ [Text.toLower c])
      else (i + 1, acc ++ [c])
    String.ofList (property.toList.foldl step (0, [])).2

/-- How a target turns a value into the text written. -/
inductive TargetKind where
  /-- The formatted value itself. -/
  | direct
  /-- `type(value)` appended to the `filter` chain. -/
  | filter
  /-- `fn(value)` appended to the `backdrop-filter` chain. -/
  | backdropFilter
  /-- `fn(value)` appended to the `transform` chain. -/
  | transform
  /-- `repeat(value, 1fr)`. -/
  | gridTemplate
  /-- `repeat(auto-fit, minmax(value, 1fr))`. -/
  | gridAutoFit
  /-- `grow shrink value`. -/
  | flexShorthand
  deriving Repr, BEq, DecidableEq, Inhabited

namespace TargetKind

/-- The name of a kind in reports. -/
def name : TargetKind → String
  | direct => "direct"
  | filter => "filter"
  | backdropFilter => "backdrop-filter"
  | transform => "transform"
  | gridTemplate => "grid-template"
  | gridAutoFit => "grid-auto-fit"
  | flexShorthand => "flex-shorthand"

/-- The kinds that extend the existing value instead of replacing it. -/
def appends : TargetKind → Bool
  | filter | backdropFilter | transform => true
  | _ => false

end TargetKind

/-- One compiled destination of a type: the kind, the CSS property, and the function name of a
chain kind (the `grow shrink` pair of a flex shorthand). -/
structure Target where
  kind : TargetKind
  property : String
  func : String
  deriving Repr, BEq, DecidableEq, Inhabited

/-- The backdrop types and their CSS functions. -/
def backdropFunctions : List (String × String) :=
  [("back-blur", "blur"), ("back-sepia", "sepia"), ("back-saturate", "saturate"),
   ("back-grayscale", "grayscale"), ("back-brightness", "brightness"),
   ("back-invert", "invert"), ("back-contrast", "contrast")]

/-- The transform types and their CSS functions. -/
def transformFunctions : List (String × String) :=
  [("translate", "translate"), ("rt", "rotate"), ("rotate", "rotate"),
   ("move-x", "translateX"), ("move-y", "translateY"), ("move-z", "translateZ"),
   ("matrix", "matrix"), ("matrix-3d", "matrix3d"), ("scale", "scale"),
   ("scale-3d", "scale3d"), ("scale-x", "scaleX"), ("scale-y", "scaleY"),
   ("scale-z", "scaleZ"), ("skew-x", "skewX"), ("skew-y", "skewY")]

/-- The target of a type and one property of its definition; `none` when the pair can never
write (a backdrop or transform tag on a type the chain does not know). -/
def compileTarget (type property : String) : Option Target :=
  if property == "ftr" || property == "filter" then
    some ⟨.filter, "filter", type⟩
  else if property == "bFt" || property == "backdropFilter" || property == "backdrop-filter" then
    (backdropFunctions.lookup type).map fun fn => ⟨.backdropFilter, "backdrop-filter", fn⟩
  else if property == "tra" || property == "transform" then
    (transformFunctions.lookup type).map fun fn => ⟨.transform, "transform", fn⟩
  else
    let prop := kebabCase property
    if type == "grid-row" || type == "grid-col" then some ⟨.gridTemplate, prop, ""⟩
    else if type == "auto-grid-row" || type == "auto-grid-col" then some ⟨.gridAutoFit, prop, ""⟩
    else if type == "flex-auto" then some ⟨.flexShorthand, prop, "1 1"⟩
    else if type == "initial-flex" then some ⟨.flexShorthand, prop, "0 1"⟩
    else some ⟨.direct, prop, ""⟩

/-- The targets of a definition: the compiled properties, in order, skipping those that
compile to nothing. -/
def compileTargets (type : String) (properties : List String) : List Target :=
  properties.filterMap (compileTarget type)

end UtilityStyles
