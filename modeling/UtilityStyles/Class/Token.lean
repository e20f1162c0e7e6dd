/-!
# Utility class tokens

A utility class such as `sm:p-10px` has four parts: an optional *prefix* (`sm`) that selects a
breakpoint or the hover state, a *type* (`p`) that the registry maps to properties, a *value*
(`10`) and a *unit* (`px`). A type of the form `[--name]` writes the custom property `--name`.

## Main definitions

* `Token` : the four parts.
* `Token.render` : the class written back from its parts.
* `Token.isHover`, `isCustomType` : the two tests the resolver makes on a token.
-/

namespace UtilityStyles

/-- A utility class split into prefix, type, value and unit; absent parts are empty. -/
structure Token where
  prefixName : String
  type : String
  value : String
  unit : String
  deriving Repr, BEq, DecidableEq, Inhabited

/-- Whether a type names a custom property: it starts with `[--` and ends with `]`. -/
def isCustomType (type : String) : Bool :=
  type.startsWith "[--" && type.endsWith "]"

/-- The custom property a `[--name]` type writes: the type without its brackets. -/
def customPropertyOf (type : String) : String :=
  String.ofList ((type.toList.drop 1).dropLast)

namespace Token

/-- The class written back from its parts: `prefix:type-valueunit`, without `prefix:` when the
prefix is empty. -/
def render (t : Token) : String :=
  (if t.prefixName.isEmpty then "" else t.prefixName ++ ":") ++ t.type ++ "-" ++ t.value ++ t.unit

/-- Hover classes are those whose prefix starts with `hover`. -/
def isHover (t : Token) : Bool :=
  t.prefixName.startsWith "hover"

/-- Whether the token's type names a custom property. -/
def isCustom (t : Token) : Bool :=
  isCustomType t.type

end Token

end UtilityStyles
