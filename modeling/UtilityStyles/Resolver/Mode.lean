import UtilityStyles.Registry.Resolve
import UtilityStyles.Breakpoint
import UtilityStyles.Class.Token
/-!
# How a class applies

A utility class applies in one of four modes. A class whose type the registry does not know
(and which is not a custom property) is inert. Otherwise a class without prefix applies at once;
a prefix starting with `hover` applies while the pointer is over the element; a prefix that
names a breakpoint applies while the window's width lies in it, when there is a window. Any
other prefix leaves the class inert.

## Main definitions

* `Mode`, `Mode.name`.
* `Context` : the registry, the breakpoints and the window's width, if any.
* `Context.modeOf` : the mode of a class.
-/

namespace UtilityStyles

/-- How a class applies to an element. -/
inductive Mode where
  | inert
  | immediate
  | responsive
  | hover
  deriving Repr, BEq, DecidableEq, Inhabited

/-- The name of a mode. -/
def Mode.name : Mode → String
  | .inert => "inert"
  | .immediate => "immediate"
  | .responsive => "responsive"
  | .hover => "hover"

/-- The modes in the order they are reported. -/
def Mode.all : List Mode := [.inert, .immediate, .responsive, .hover]

/-- What decides how classes apply: the registry of types, the breakpoints, and the window's
width when there is a window. -/
structure Context where
  registry : Registry
  breakpoints : BreakpointTable
  width : Option Float
  deriving Inhabited

/-- Whether a type is known: a custom property, or a type with at least one target. -/
def Registry.knows (r : Registry) (type : String) : Bool :=
  isCustomType type || (r.targets? type).any (!·.isEmpty)

namespace Context

/-- The mode of a class. -/
def modeOf (c : Context) (tok : Token) : Mode :=
  if !c.registry.knows tok.type then .inert
  else if tok.prefixName.isEmpty then .immediate
  else if tok.isHover then .hover
  else if c.width.isSome && c.breakpoints.has tok.prefixName then .responsive
  else .inert

/-- The properties a class's type writes, each once, in target order; a custom property type
writes its property. -/
def properties (c : Context) (type : String) : List String :=
  if isCustomType type then [customPropertyOf type]
  else
    ((c.registry.targets? type).getD []).foldl
      (fun acc t => if acc.contains t.property then acc else acc ++ [t.property]) []

end Context

end UtilityStyles
