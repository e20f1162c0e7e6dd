/-!
# Breakpoints

A breakpoint is a named range of viewport widths; either bound may be absent, and a present
bound belongs to the range. A breakpoint table is an ordered list: looking a name up takes the
first entry with that name whose range holds the width, so a name may be repeated with several
ranges.

## Main definitions

* `Breakpoint`, `Breakpoint.contains`.
* `BreakpointTable.defaults` : the mobile-first table `max-sm`, `sm`, …, `xl`.
* `BreakpointTable.find?`, `BreakpointTable.has`, `BreakpointTable.named?`.
-/

namespace UtilityStyles

/-- A named width range; absent bounds do not restrict. -/
structure Breakpoint where
  name : String
  min : Option Float
  max : Option Float
  deriving Inhabited

/-- Whether a width satisfies every present bound (bounds included). -/
def Breakpoint.contains (b : Breakpoint) (width : Float) : Bool :=
  (match b.min with
    | some lo => !(width < lo)
    | none => true) &&
  (match b.max with
    | some hi => !(width > hi)
    | none => true)

/-- An ordered list of breakpoints; earlier entries take precedence. -/
structure BreakpointTable where
  entries : List Breakpoint
  deriving Inhabited

namespace BreakpointTable

/-- The standard mobile-first table: below and from 640, 768, 1024 and 1280 pixels. -/
def defaults : BreakpointTable :=
  ⟨[⟨"max-sm", none, some 639.9⟩, ⟨"sm", some 640, none⟩,
    ⟨"max-md", none, some 767.9⟩, ⟨"md", some 768, none⟩,
    ⟨"max-lg", none, some 1023.9⟩, ⟨"lg", some 1024, none⟩,
    ⟨"max-xl", none, some 1279.9⟩, ⟨"xl", some 1280, none⟩]⟩

/-- The table with entries added at the end. -/
def append (t : BreakpointTable) (more : List Breakpoint) : BreakpointTable :=
  ⟨t.entries ++ more⟩

/-- The first entry named `name` whose range holds `width`. -/
def find? (t : BreakpointTable) (name : String) (width : Float) : Option Breakpoint :=
  t.entries.find? fun b => b.name == name && b.contains width

/-- Whether some entry is named `name`. -/
def has (t : BreakpointTable) (name : String) : Bool :=
  t.entries.any (·.name == name)

/-- The first entry named `name`, whatever its range. -/
def named? (t : BreakpointTable) (name : String) : Option Breakpoint :=
  t.entries.find? (·.name == name)

end BreakpointTable

end UtilityStyles
