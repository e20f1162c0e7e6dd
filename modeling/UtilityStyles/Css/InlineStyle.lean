import UtilityStyles.Css.Declaration
/-!
# Inline styles

An element's inline style is an ordered list of properties and their values, each property at
most once. Setting a property replaces its value in place, or appends it when it is new; setting
the empty value (after trimming blanks) removes it. Its text is `p: v; q: w;`, and empty for
no property.

## Main definitions

* `InlineStyle`, `InlineStyle.get`, `InlineStyle.set`, `InlineStyle.render`.
* `InlineStyle.ofAttr` : the style that a style attribute declares.
-/

namespace UtilityStyles.Css

open UtilityStyles.Text (trimBlank)

/-- An inline style: properties and values in the order they were first set. -/
structure InlineStyle where
  decls : List (String × String)
  deriving Repr, BEq, Inhabited

namespace InlineStyle

/-- The style without properties. -/
def empty : InlineStyle := ⟨[]⟩

/-- The value of a property, empty when it is not set. -/
def get (s : InlineStyle) (property : String) : String :=
  ((s.decls.find? (·.1 == property)).map (·.2)).getD ""

/-- Sets a property; the empty value removes it. -/
def set (s : InlineStyle) (property value : String) : InlineStyle :=
  let v := trimBlank value
  if s.decls.any (·.1 == property) then
    if v.isEmpty then ⟨s.decls.filter (·.1 != property)⟩
    else ⟨s.decls.map fun d => if d.1 == property then (d.1, v) else d⟩
  else if v.isEmpty then s
  else ⟨s.decls ++ [(property, v)]⟩

/-- The number of properties set. -/
def size (s : InlineStyle) : Nat := s.decls.length

/-- The text of a style: `p: v; q: w;`, or empty. -/
def render (s : InlineStyle) : String :=
  match s.decls with
  | [] => ""
  | ds => String.intercalate "; " (ds.map fun d => d.1 ++ ": " ++ d.2) ++ ";"

/-- The style that a style attribute declares: its declarations set in order. -/
def ofAttr (attr : String) : InlineStyle :=
  (readDeclarations attr).foldl (fun s d => s.set d.1 d.2) empty

end InlineStyle

end UtilityStyles.Css
