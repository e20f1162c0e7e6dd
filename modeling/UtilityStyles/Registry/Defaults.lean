/-!
# The default property table

The types every registry starts from unless defaults are turned off: spacing, sizing, colour,
border, typography, layout, flex, grid, filter, backdrop, transform and effect types. The chain
types use the tags `ftr`, `bFt` and `tra`.

## Main definitions

* `defaultProperties` : type and property list of each default type.
-/

namespace UtilityStyles

/-- The default types with their property lists. -/
def defaultProperties : List (String × List String) := [
  ("p", ["padding"]),
  ("pt", ["paddingTop"]),
  ("pb", ["paddingBottom"]),
  ("pr", ["paddingRight"]),
  ("pl", ["paddingLeft"]),
  ("ph", ["paddingLeft", "paddingRight"]),
  ("pv", ["paddingTop", "paddingBottom"]),
  ("m", ["margin"]),
  ("mt", ["marginTop"]),
  ("mb", ["marginBottom"]),
  ("mr", ["marginRight"]),
  ("ml", ["marginLeft"]),
  ("mh", ["marginLeft", "marginRight"]),
  ("mv", ["marginTop", "marginBottom"]),
  ("w", ["width"]),
  ("h", ["height"]),
  ("w-mx", ["maxWidth"]),
  ("w-mn", ["minWidth"]),
  ("h-mx", ["maxHeight"]),
  ("h-mn", ["minHeight"]),
  ("box", ["width", "height"]),
  ("ratio", ["aspectRatio"]),
  ("bg", ["background"]),
  ("bgc", ["backgroundColor"]),
  ("bg-size", ["backgroundSize"]),
  ("tc", ["color"]),
  ("op", ["opacity"]),
  ("br", ["borderRadius"]),
  ("bw", ["borderWidth"]),
  ("bs", ["borderStyle"]),
  ("bc", ["borderColor"]),
  ("border", ["border"]),
  ("fs", ["fontSize"]),
  ("fw", ["fontWeight"]),
  ("ff", ["fontFamily"]),
  ("lh", ["lineHeight"]),
  ("ls", ["letterSpacing"]),
  ("ta", ["textAlign"]),
  ("td", ["textDecoration"]),
  ("tt", ["textTransform"]),
  ("ws", ["whiteSpace"]),
  ("text", ["textAlign"]),
  ("d", ["display"]),
  ("position", ["position"]),
  ("post", ["position"]),
  ("t", ["top"]),
  ("b", ["bottom"]),
  ("r", ["right"]),
  ("l", ["left"]),
  ("z", ["zIndex"]),
  ("over", ["overflow"]),
  ("cursor", ["cursor"]),
  ("fx", ["flex"]),
  ("flex-auto", ["flex"]),
  ("initial-flex", ["flex"]),
  ("fx-wrap", ["flexWrap"]),
  ("fd", ["flexDirection"]),
  ("flex-parent", ["justifyContent", "alignItems"]),
  ("ai", ["alignItems"]),
  ("ac", ["alignContent"]),
  ("jc", ["justifyContent"]),
  ("gap", ["gap"]),
  ("rg", ["rowGap"]),
  ("cg", ["columnGap"]),
  ("grid-row", ["gridTemplateRows"]),
  ("grid-col", ["gridTemplateColumns"]),
  ("auto-grid-row", ["gridTemplateRows"]),
  ("auto-grid-col", ["gridTemplateColumns"]),
  ("grid-item-row", ["gridRow"]),
  ("grid-item-col", ["gridColumn"]),
  ("blur", ["ftr"]),
  ("brightness", ["ftr"]),
  ("contrast", ["ftr"]),
  ("grayscale", ["ftr"]),
  ("hue-rotate", ["ftr"]),
  ("invert", ["ftr"]),
  ("saturate", ["ftr"]),
  ("sepia", ["ftr"]),
  ("back-blur", ["bFt"]),
  ("back-sepia", ["bFt"]),
  ("back-saturate", ["bFt"]),
  ("back-grayscale", ["bFt"]),
  ("back-brightness", ["bFt"]),
  ("back-invert", ["bFt"]),
  ("back-contrast", ["bFt"]),
  ("translate", ["tra"]),
  ("rt", ["tra"]),
  ("rotate", ["tra"]),
  ("move-x", ["tra"]),
  ("move-y", ["tra"]),
  ("move-z", ["tra"]),
  ("matrix", ["tra"]),
  ("matrix-3d", ["tra"]),
  ("scale", ["tra"]),
  ("scale-3d", ["tra"]),
  ("scale-x", ["tra"]),
  ("scale-y", ["tra"]),
  ("skew-x", ["tra"]),
  ("skew-y", ["tra"]),
  ("shadow", ["boxShadow"]),
  ("transition", ["transition"]),
  ("tr-time", ["transitionDuration"])]

end UtilityStyles
