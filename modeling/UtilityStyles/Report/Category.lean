import UtilityStyles.Registry.Resolve
/-!
# Property categories

Explanations group the written properties into categories shown in a fixed order: Layout,
Visual, Typography, Effects and Custom Properties. Known properties have a fixed category; for
the others the name decides: `--name` is a custom property, `border-*` and `background-*` are
visual, `font-*` and `text-*` typography, `transition-*` and `animation-*` effects, and anything
else is layout.

## Main definitions

* `Category`, `Category.displayOrder`.
* `categorize` : the category of a property.
* `categorizeWrites` : writes grouped by category, each group sorted by property.
-/

namespace UtilityStyles.Report

/-- The categories of properties. -/
inductive Category where
  | layout
  | visual
  | typography
  | effects
  | custom
  deriving Repr, BEq, DecidableEq, Inhabited

namespace Category

/-- The name shown for a category. -/
def name : Category → String
  | layout => "Layout"
  | visual => "Visual"
  | typography => "Typography"
  | effects => "Effects"
  | custom => "Custom Properties"

/-- The categories in the order they are shown. -/
def displayOrder : List Category :=
  [layout, visual, typography, effects, custom]

end Category

/-- The properties with a fixed category. -/
def knownCategories : List (String × Category) :=
  [("background", .visual), ("background-color", .visual), ("background-size", .visual),
   ("color", .visual), ("border", .visual), ("border-color", .visual),
   ("border-radius", .visual), ("border-width", .visual), ("border-style", .visual),
   ("box-shadow", .visual), ("opacity", .visual), ("cursor", .visual),
   ("display", .layout), ("flex", .layout), ("gap", .layout),
   ("grid-template-columns", .layout), ("grid-template-rows", .layout), ("position", .layout),
   ("top", .layout), ("right", .layout), ("bottom", .layout), ("left", .layout),
   ("width", .layout), ("height", .layout), ("overflow", .layout), ("z-index", .layout),
   ("aspect-ratio", .layout),
   ("font-family", .typography), ("font-size", .typography), ("font-weight", .typography),
   ("line-height", .typography), ("letter-spacing", .typography), ("text-align", .typography),
   ("text-decoration", .typography), ("text-transform", .typography),
   ("white-space", .typography),
   ("transition", .effects), ("transition-duration", .effects), ("transform", .effects),
   ("filter", .effects), ("backdrop-filter", .effects)]

/-- The category of a property: its fixed category, or else the one its name prefix gives. -/
def categorize (property : String) : Category :=
  match knownCategories.lookup property with
  | some c => c
  | none =>
    if property.startsWith "--" then .custom
    else if property.startsWith "border-" || property.startsWith "background-" then .visual
    else if property.startsWith "font-" || property.startsWith "text-" then .typography
    else if property.startsWith "transition-" || property.startsWith "animation-" then .effects
    else .layout

/-- A write with its category, and whether its value refers to a custom property. -/
structure CategorizedWrite where
  write : Write
  category : Category
  isVar : Bool
  deriving Inhabited

/-- Whether `needle` occurs in `s`. -/
def containsText (s needle : String) : Bool :=
  (s.splitOn needle).length > 1

/-- The non-empty groups of writes by category, in display order, each group stably sorted by
property. -/
def categorizeWrites (writes : List Write) : List (Category × List CategorizedWrite) :=
  let tagged := writes.map fun w => ⟨w, categorize w.property, containsText w.value "var(--"⟩
  Category.displayOrder.filterMap fun c =>
    match tagged.filter (·.category == c) with
    | [] => none
    | group => some (c, group.mergeSort fun a b => a.write.property ≤ b.write.property)

end UtilityStyles.Report
