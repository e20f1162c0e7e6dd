import UtilityStyles.Resolver.Mode
import UtilityStyles.Class.Parse
/-!
# Explaining a class

What a class would do, without applying it: whether it is a utility class, its parts, its mode,
the targets of its type, the declarations it writes (on an element without style), and for a
responsive class the breakpoint its prefix names and whether the window's width lies in it.

## Main definitions

* `Explanation`, `Context.explain`.
-/

namespace UtilityStyles

open UtilityStyles.Class (parseClass)

/-- What a class would do. -/
structure Explanation where
  className : String
  /-- The class's parts, when it is a utility class. -/
  token : Option Token
  mode : Mode
  targets : List Target
  writes : List Write
  /-- The first breakpoint the prefix names, for a responsive class. -/
  breakpoint : Option Breakpoint
  /-- For a responsive class: the window's width lies in its breakpoint. -/
  active : Bool
  deriving Inhabited

namespace Context

/-- What a class would do under a context. Inert classes write nothing. -/
def explain (c : Context) (className : String) : Explanation :=
  match parseClass className with
  | none => ⟨className, none, .inert, [], [], none, false⟩
  | some tok =>
    let mode := c.modeOf tok
    let targets := (c.registry.targets? tok.type).getD []
    if mode == .inert then ⟨className, some tok, mode, targets, [], none, false⟩
    else
      let writes := c.registry.resolve tok.type tok.value tok.unit fun _ => ""
      if mode == .responsive then
        let active := (c.breakpoints.find? tok.prefixName (c.width.getD 0)).isSome
        ⟨className, some tok, mode, targets, writes, c.breakpoints.named? tok.prefixName, active⟩
      else ⟨className, some tok, mode, targets, writes, none, false⟩

end Context

end UtilityStyles
