import UtilityStyles.Proofs.Responsive
import Mathlib
/-!
# Hover classes and mouse events

A `mouseover` on an element runs its hover classes' `mouseover` listeners, each writing its
class's declarations against the baseline the class took when it was bound; a `mouseout` runs
their `mouseout` listeners, each writing that baseline back. Both write exactly the properties of
the baselines, so whatever mouse events came before, the last one leaves the styles it would have
left alone: a run of `mouseover`s does not grow a `transform` chain.

What a `mouseout` writes back is the baseline, not the styles before the `mouseover`: a class
applied after a hover class, to a property of the hover class's type, is lost on `mouseout`.

## Main statements

* `Session.dispatch_eq` : an event is one run of writes, each listener's.
* `Session.covers_mouse_iff` : both mouse events write the pairs of the hover baselines.
* `mouse_events_restore_baselines` : after mouse events, the styles of the last event alone; a
  `mouseout` writes the baselines back.
* `mouseout_loses_later_class` : a plain colour applied after a hover colour is lost.
-/

namespace UtilityStyles

open UtilityStyles.Class (parseClass)
open UtilityStyles.Text (fields trimBlank)

namespace Session

/-- The writes an event on an element makes: each of its listeners', in order, at the window's
width. -/
def eventWrites (s : Session) (el : Nat) (ev : String) : List (Nat × List (String × String)) :=
  ((s.table (.element el)).forEvent ev).map fun r =>
    (r.element, r.assignments s.registry s.breakpoints ((s.window.map (·.width)).getD 0))

/-- An event runs its element's listeners as one run of writes and changes nothing else. -/
theorem dispatch_eq (s : Session) (el : Nat) (ev : String) :
    (s.dispatch el ev).1 = { s with page := s.page.setEach (s.eventWrites el ev) } := by
  simp [dispatch, reactAll_eq, eventWrites, table]

/-- Events in a row on one element write, one after the other, the writes of each event. -/
theorem run_dispatches (s : Session) (el : Nat) (evs : List String) :
    (s.run (evs.map (.dispatch el))).page = s.page.setEach (evs.flatMap (s.eventWrites el)) :=
  run_page_of_writes (Call.dispatch el) (fun s => s.eventWrites el)
    (fun s ev => by rw [call, dispatch_eq]) (fun s ev => by rw [call, dispatch_eq]; rfl) s evs

section Mouse

variable {s : Session} {el : Nat} {hovers : List (Nat × Token × List (String × String))}

/-- The two halves of an element's hover classes: on `mouseover` their declarations, on
`mouseout` their baselines, each baseline of exactly its class's properties. -/
structure HoverPairs (s : Session) (el : Nat) (hovers : List (Nat × Token × List (String × String))) :
    Prop where
  writes : (s.table (.element el)).forEvent "mouseover" =
    hovers.map fun h => .write h.1 h.2.1 h.2.2
  restores : (s.table (.element el)).forEvent "mouseout" = hovers.map fun h => .restore h.1 h.2.2
  keys : ∀ h ∈ hovers, h.2.2.map Prod.fst = s.context.properties h.2.1.type

/-- Either mouse event writes exactly the pairs of the hover classes' baselines. -/
theorem covers_mouse_iff (hp : HoverPairs s el hovers) {ev : String}
    (hev : ev = "mouseover" ∨ ev = "mouseout") (e : Nat) (q : String) :
    Page.Covers (s.eventWrites el ev) e q ↔ ∃ h ∈ hovers, h.1 = e ∧ q ∈ h.2.2.map Prod.fst := by
  -- either event runs one listener per hover class, on its element and with its baseline
  obtain ⟨f, hf, hrs, hanchored⟩ : ∃ f : Nat × Token × List (String × String) → Reaction,
      (∀ h, (f h).element = h.1 ∧ (f h).baseline = h.2.2) ∧
      (s.table (.element el)).forEvent ev = hovers.map f ∧
      ∀ h ∈ hovers, (f h).Anchored s.context := by
    rcases hev with rfl | rfl
    · exact ⟨fun h => .write h.1 h.2.1 h.2.2, fun _ => ⟨rfl, rfl⟩, hp.writes, hp.keys⟩
    · exact ⟨fun h => .restore h.1 h.2.2, fun _ => ⟨rfl, rfl⟩, hp.restores, fun _ _ => trivial⟩
  rw [eventWrites, hrs]
  refine (Reaction.covers_assignments_iff (c := s.context) (fun r hr => ?_) _ _ e q).trans ⟨?_, ?_⟩
  · obtain ⟨h, hh, rfl⟩ := List.mem_map.1 hr
    exact hanchored h hh
  · rintro ⟨_, hr, hel, hq⟩
    obtain ⟨h, hh, rfl⟩ := List.mem_map.1 hr
    rw [(hf h).1] at hel
    rw [(hf h).2] at hq
    exact ⟨h, hh, hel, hq⟩
  · rintro ⟨h, hh, hel, hq⟩
    refine ⟨f h, List.mem_map.2 ⟨h, hh, rfl⟩, ?_, ?_⟩
    · rw [(hf h).1, hel]
    · rw [(hf h).2]
      exact hq

/-- A `mouseout` writes the hover classes' baselines back, in order. -/
theorem mouseout_page (hp : HoverPairs s el hovers) :
    (s.dispatch el "mouseout").1.page = s.page.setEach (hovers.map fun h => (h.1, h.2.2)) := by
  rw [dispatch_eq]
  simp [eventWrites, hp.restores, Function.comp_def, Reaction.element, Reaction.assignments]

/-- After mouse events on an element, the styles are those its last event gives alone. -/
theorem styleValue_run_mouse (hp : HoverPairs s el hovers) {evs : List String}
    (hevs : ∀ e ∈ evs, e = "mouseover" ∨ e = "mouseout") {ev : String}
    (hev : ev = "mouseover" ∨ ev = "mouseout") (e : Nat) (q : String) :
    (s.run ((evs ++ [ev]).map (.dispatch el))).page.styleValue e q =
      (s.dispatch el ev).1.page.styleValue e q := by
  rw [run_dispatches, List.flatMap_append, Page.setEach_append, List.flatMap_singleton,
    dispatch_eq]
  refine Page.styleValue_setEach_setEach _ (fun e' q' hc => ?_) e q
  obtain ⟨_, hx, hc⟩ : ∃ x ∈ evs.flatMap (s.eventWrites el), x.1 = e' ∧ q' ∈ x.2.map Prod.fst := hc
  obtain ⟨y, hy, hxy⟩ := List.mem_flatMap.1 hx
  exact (covers_mouse_iff hp hev e' q').2 ((covers_mouse_iff hp (hevs y hy) e' q').1 ⟨_, hxy, hc⟩)

end Mouse

theorem Wired.hoverPairs {s : Session} (hs : s.Wired) (el : Nat) :
    ∃ hovers, HoverPairs s el hovers := by
  obtain ⟨hovers, writes, restores, keys⟩ := hs.hover el
  exact ⟨hovers, writes, restores, keys⟩

end Session

open Session in
/-- **Mouse events write hover baselines back.** Apply classes to a page by any calls, then fire
`mouseover` and `mouseout` on an element in any order. The element's `mouseover` listeners write
its hover classes' declarations and its `mouseout` listeners their baselines, in the same order,
each baseline holding exactly its class's properties. Whatever events came before, the last one
leaves the styles it leaves alone. A `mouseout` leaves the styles before the events with the
baselines written back: those styles themselves when every baseline agrees with them. -/
theorem mouse_events_restore_baselines (reg : Registry) (bps : BreakpointTable)
    (width : Option Float) (page : Page) (calls : List Call)
    (hcalls : ∀ c ∈ calls, c.applies = true) (el : Nat) (evs : List String)
    (hevs : ∀ e ∈ evs, e = "mouseover" ∨ e = "mouseout") (ev : String)
    (hev : ev = "mouseover" ∨ ev = "mouseout") :
    let S := (start reg bps width page).run calls
    let final := S.run ((evs ++ [ev]).map (.dispatch el))
    (∀ el' prop, final.page.styleValue el' prop = (S.dispatch el ev).1.page.styleValue el' prop) ∧
    ∃ hovers : List (Nat × Token × List (String × String)),
      (S.table (.element el)).forEvent "mouseover" =
        hovers.map (fun h => .write h.1 h.2.1 h.2.2) ∧
      (S.table (.element el)).forEvent "mouseout" = hovers.map (fun h => .restore h.1 h.2.2) ∧
      (∀ h ∈ hovers, h.2.2.map Prod.fst = S.context.properties h.2.1.type) ∧
      (S.dispatch el "mouseout").1.page = S.page.setEach (hovers.map fun h => (h.1, h.2.2)) ∧
      ((∀ h ∈ hovers, ∀ a ∈ h.2.2, trimBlank a.2 = S.page.styleValue h.1 a.1) →
        ∀ el' prop, (S.dispatch el "mouseout").1.page.styleValue el' prop =
          S.page.styleValue el' prop) := by
  intro S final
  obtain ⟨hS, -⟩ := (wired_start reg bps width page).run hcalls
  obtain ⟨hovers, hp⟩ := hS.hoverPairs el
  refine ⟨styleValue_run_mouse hp hevs hev, hovers, hp.writes, hp.restores, hp.keys,
    mouseout_page hp, fun hagree el' prop => ?_⟩
  rw [mouseout_page hp]
  refine Page.styleValue_setEach_of_agree (fun w hw a ha => ?_) el' prop
  obtain ⟨h, hh, rfl⟩ := List.mem_map.1 hw
  exact hagree h hh a ha

open Session in
/-- A hover colour and a plain colour on one element, then `mouseover` and `mouseout`. -/
theorem mouse_events_restore_baselines_hover_colour :
    (∀ c ∈ [Call.applyMulti 0 "hover:tc-red tc-green"], c.applies = true) ∧
    (∀ e ∈ ["mouseover"], e = "mouseover" ∨ e = "mouseout") ∧
    ("mouseout" = "mouseover" ∨ "mouseout" = "mouseout") ∧
    let S := (start ⟨[("tc", ["color"])]⟩ ⟨[]⟩ none ⟨[], #[default]⟩).run
      [.applyMulti 0 "hover:tc-red tc-green"]
    let final := S.run ((["mouseover"] ++ ["mouseout"]).map (.dispatch 0))
    (∀ el' prop, final.page.styleValue el' prop =
      (S.dispatch 0 "mouseout").1.page.styleValue el' prop) ∧
    ∃ hovers : List (Nat × Token × List (String × String)),
      (S.table (.element 0)).forEvent "mouseover" =
        hovers.map (fun h => .write h.1 h.2.1 h.2.2) ∧
      (S.table (.element 0)).forEvent "mouseout" = hovers.map (fun h => .restore h.1 h.2.2) ∧
      (∀ h ∈ hovers, h.2.2.map Prod.fst = S.context.properties h.2.1.type) ∧
      (S.dispatch 0 "mouseout").1.page = S.page.setEach (hovers.map fun h => (h.1, h.2.2)) ∧
      ((∀ h ∈ hovers, ∀ a ∈ h.2.2, trimBlank a.2 = S.page.styleValue h.1 a.1) →
        ∀ el' prop, (S.dispatch 0 "mouseout").1.page.styleValue el' prop =
          S.page.styleValue el' prop) :=
  ⟨by decide, by decide, by decide,
    mouse_events_restore_baselines ⟨[("tc", ["color"])]⟩ ⟨[]⟩ none ⟨[], #[default]⟩
      [.applyMulti 0 "hover:tc-red tc-green"] (by decide) 0 ["mouseover"] (by decide) "mouseout"
      (by decide)⟩

open Session in
/-- A plain colour applied after a hover colour, in one class list, is lost on `mouseout`: the
hover class's baseline, taken before the plain colour was written, has no colour. -/
theorem mouseout_loses_later_class :
    let S := (start ⟨[("tc", ["color"])]⟩ ⟨[]⟩ none ⟨[], #[default]⟩).run
      [.applyMulti 0 "hover:tc-red tc-green"]
    S.page.styleValue 0 "color" = "green" ∧
      (S.run [.dispatch 0 "mouseover", .dispatch 0 "mouseout"]).page.styleValue 0 "color" = "" := by
  intro S
  -- what the registry makes of the two classes
  have hk : kebabCase "color" = "color" := by cbv
  have hred : parseClass "hover:tc-red" = some ⟨"hover", "tc", "red", ""⟩ := by
    simp only [parseClass]; simp; decide
  have hgreen : parseClass "tc-green" = some ⟨"", "tc", "green", ""⟩ := by
    simp only [parseClass]; simp; decide
  have hprops : Context.properties ⟨⟨[("tc", ["color"])]⟩, ⟨[]⟩, none⟩ "tc" = ["color"] := by
    simp [Context.properties, Registry.targets?, Registry.properties?, compileTargets,
      compileTarget, hk]
    decide
  have hres : ∀ cur, Registry.resolve ⟨[("tc", ["color"])]⟩ "tc" "green" "" cur =
      [⟨"color", "green", false⟩] := by
    intro cur
    have hf : formatValue "green" "" = "green" := by cbv
    simp [Registry.resolve, Registry.targets?, Registry.properties?, compileTargets, compileTarget,
      hk, isCustomType, resolveTargets, Target.format, hf]
  -- the hover class binds first, with the empty colour as its baseline
  obtain ⟨s₀, hs₀⟩ : ∃ s₀, s₀ = (start ⟨[("tc", ["color"])]⟩ ⟨[]⟩ none ⟨[], #[default]⟩).newBinding.1 :=
    ⟨_, rfl⟩
  have hctx₀ : s₀.context = ⟨⟨[("tc", ["color"])]⟩, ⟨[]⟩, none⟩ := by rw [hs₀]; rfl
  have hmr : s₀.modeOf ⟨"hover", "tc", "red", ""⟩ = .hover := by
    have hh : Token.isHover ⟨"hover", "tc", "red", ""⟩ = true := by cbv
    rw [modeOf, hctx₀]
    simp only [Context.modeOf, hh]
    decide
  have hbase : s₀.snapshot 0 (s₀.context.properties "tc") = [("color", "")] := by
    rw [hctx₀, hprops, hs₀]
    rfl
  obtain ⟨s₁, hs₁⟩ : ∃ s₁, s₁ = (s₀.bindHover 0 ⟨"hover", "tc", "red", ""⟩ 0).count 0 .hover :=
    ⟨_, rfl⟩
  have hctx₁ : s₁.context = ⟨⟨[("tc", ["color"])]⟩, ⟨[]⟩, none⟩ := by
    rw [hs₁, context_count, bindHover, context_listen, context_listen, hctx₀]
  have hmg : s₁.modeOf ⟨"", "tc", "green", ""⟩ = .immediate := by
    rw [modeOf, hctx₁]
    simp only [Context.modeOf]
    decide
  -- then the plain class writes its colour at once
  have hS : S = (s₁.applyStyle 0 "tc" "green" "").1.count 0 .immediate := by
    have hfields : fields "hover:tc-red tc-green" = ["hover:tc-red", "tc-green"] := by decide
    have hsize : (start ⟨[("tc", ["color"])]⟩ ⟨[]⟩ none ⟨[], #[default]⟩).bindings.size = 0 := rfl
    simp only [S, run_cons, run_nil, call, applyMulti, hfields, applyClasses_eq, List.foldl_cons,
      List.foldl_nil, hsize, ← hs₀]
    rw [applyClass_of_hover hred hmr, ← hs₁, applyClass_of_immediate hgreen hmg]
  have hreg₁ : s₁.registry = ⟨[("tc", ["color"])]⟩ := congrArg Context.registry hctx₁
  have hpage₁ : s₁.page = ⟨[], #[default]⟩ := by
    rw [hs₁, hs₀]
    simp [count, bindHover]
    rfl
  -- the mouseout listener writes the baseline back
  have hout : (S.table (.element 0)).forEvent "mouseout" = [.restore 0 [("color", "")]] := by
    have hopen : (s₀.binding 0).closed = false := by rw [hs₀]; rfl
    have hhas : s₀.hasTable (.element 0) = true := by rw [hs₀]; rfl
    have hempty : (s₀.table (.element 0)).forEvent "mouseout" = [] := by rw [hs₀]; rfl
    rw [hS, table_count, table_applyStyle, hs₁, table_count, bindHover,
      forEvent_listen_of_open (by rw [closed_listen]; exact hopen), hasTable_listen,
      forEvent_listen_of_open hopen, hbase]
    simp [hhas, hempty]
  constructor
  · rw [hS]
    show (s₁.applyStyle 0 "tc" "green" "").1.page.styleValue 0 "color" = "green"
    simp only [applyStyle, hreg₁, hres, List.isEmpty_cons, Bool.false_eq_true, if_false]
    rw [Page.writeAll_eq_setAll, hpage₁]
    simp only [List.map_cons, List.map_nil, Write.target, Page.setAll, Page.styleValue_setStyle]
    have htrim : trimBlank "green" = "green" := by decide
    simp [Page.size, htrim]
  · show (S.run (["mouseover", "mouseout"].map (.dispatch 0))).page.styleValue 0 "color" = ""
    have hw : S.eventWrites 0 "mouseout" = [(0, [("color", "")])] := by
      simp [eventWrites, hout, Reaction.element, Reaction.assignments]
    have htrim : trimBlank "" = "" := by decide
    rw [run_dispatches, List.flatMap_cons, List.flatMap_cons, List.flatMap_nil, List.append_nil,
      Page.setEach_append, hw]
    simp [Page.setEach, Page.setAll, htrim]

end UtilityStyles
