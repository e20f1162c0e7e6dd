import UtilityStyles.Proofs.Hover
/-!
# What a single binding leaves behind

A hover class restores, on `mouseout`, the properties its type had when the class was bound, and
a responsive class clears them when a resize leaves its breakpoint. Its other listener, the
`mouseover` one or the in-range branch of the `resize` one, resolves the type through the
registry as it stands when the listener runs. Extending the resolver (`Session.use`) can give the
type other properties in between, and then the class writes properties it never undoes.

Events, resizes and extensions of the resolver keep every listener where it is, so along any
run of them the listeners are those of the binding. This module proves what a `mouseout` and an
out-of-range resize undo along such runs, and that they undo everything the class ever wrote
exactly as long as its type keeps within the properties it had when it was bound.

## Main statements

* `Session.table_run`, `Session.page_call` : calls that keep the listeners.
* `Session.styleValue_run_confined` : a run writes only where the binding's listeners may.
* `binding_undoes_bound_properties` : what a `mouseout` and an out-of-range resize undo.
-/

namespace UtilityStyles

open UtilityStyles.Class (parseClass)
open UtilityStyles.Text (trimBlank)

namespace Session

/-- Whether a call leaves every listener where it is: an event, a resize, or extending the
resolver. -/
def Call.keepsListeners : Call → Bool
  | .dispatch .. | .resize .. | .use .. => true
  | _ => false

/-- The writes of a call that keeps the listeners: its listeners' writes. -/
def callWrites (s : Session) : Call → List (Nat × List (String × String))
  | .dispatch el ev => s.eventWrites el ev
  | .resize width => s.resizeWrites width
  | _ => []

theorem table_resize (s : Session) (width : Float) : (s.resize width).1.table = s.table := by
  funext src
  cases hw : s.window with
  | none => simp [resize, hw]
  | some w =>
    cases src with
    | window => simp [resize, hw, reactAll_eq, table]
    | element el => simp [resize, hw, reactAll_eq, table, handlersOf]

theorem table_call {s : Session} {c : Call} (hc : c.keepsListeners) : (s.call c).table = s.table := by
  cases c with
  | dispatch el ev =>
    rw [call, dispatch_eq]
    rfl
  | resize width => exact table_resize s width
  | use bps props =>
    obtain ⟨reg, log, h⟩ := use_eq s bps props
    rw [call, h]
    rfl
  | _ => simp [Call.keepsListeners] at hc

/-- A call that keeps the listeners makes its listeners' writes, and only them. -/
theorem page_call {s : Session} {c : Call} (hc : c.keepsListeners) :
    (s.call c).page = s.page.setEach (s.callWrites c) := by
  cases c with
  | dispatch el ev => rw [call, dispatch_eq, callWrites]
  | resize width => exact resize_page s width
  | use bps props =>
    obtain ⟨reg, log, h⟩ := use_eq s bps props
    rw [call, h]
    rfl
  | _ => simp [Call.keepsListeners] at hc

/-- Along a run of calls that keep the listeners, the listeners stay. -/
theorem table_run {s : Session} {ops : List Call} (hops : ∀ op ∈ ops, op.keepsListeners) :
    (s.run ops).table = s.table := by
  induction ops generalizing s with
  | nil => rfl
  | cons op rest ih =>
    rw [run_cons, ih fun op' h => hops op' (List.mem_cons_of_mem _ h), table_call (hops op (by simp))]

/-- What a call writes, one of the session's listeners writes, at some width. -/
theorem covers_callWrites {s : Session} {c : Call} {e : Nat} {q : String}
    (h : Page.Covers (s.callWrites c) e q) :
    ∃ src ev, ∃ r ∈ (s.table src).forEvent ev, r.element = e ∧
      ∃ width, q ∈ (r.assignments s.registry s.breakpoints width).map Prod.fst := by
  obtain ⟨x, hx, hxe, hxq⟩ := h
  cases c with
  | dispatch el ev =>
    obtain ⟨r, hr, rfl⟩ := List.mem_map.1 hx
    exact ⟨.element el, ev, r, hr, hxe, _, hxq⟩
  | resize width =>
    obtain ⟨r, hr, rfl⟩ := List.mem_map.1 hx
    exact ⟨.window, "resize", r, hr, hxe, width, hxq⟩
  | _ => simp [callWrites] at hx

/-- What one class's listeners write lands on its baseline's properties, or on the properties
its type has when the listener runs. -/
theorem mem_assignments_keys_or (c : Context) (bps : BreakpointTable) (width : Float)
    {el : Nat} {tok : Token} {base : List (String × String)} {r : Reaction}
    (hr : r = .write el tok base ∨ r = .restore el base ∨ r = .evaluate el tok base) {q : String}
    (hq : q ∈ (r.assignments c.registry bps width).map Prod.fst) :
    q ∈ base.map Prod.fst ∨ q ∈ c.properties tok.type := by
  rcases hr with rfl | rfl | rfl
  · exact .inr ((Registry.mem_declarations_keys c tok base q).1 hq)
  · exact .inl hq
  · simp only [Reaction.assignments] at hq
    split at hq
    · exact .inr ((Registry.mem_declarations_keys c tok base q).1 hq)
    · exact .inl (by simpa using hq)

/-- Along a run of calls that keep the listeners of one class on `el`, while the class's type
keeps within its baseline's properties, every other pair keeps its value. -/
theorem styleValue_run_confined {s : Session} {ops : List Call}
    (hops : ∀ op ∈ ops, op.keepsListeners) {el : Nat} {tok : Token} {base : List (String × String)}
    (hlisteners : ∀ src ev, ∀ r ∈ (s.table src).forEvent ev,
      r = .write el tok base ∨ r = .restore el base ∨ r = .evaluate el tok base)
    (hprops : ∀ n, ∀ q ∈ (s.run (ops.take n)).context.properties tok.type, q ∈ base.map Prod.fst)
    {e : Nat} {q : String} (hout : e ≠ el ∨ q ∉ base.map Prod.fst) :
    (s.run ops).page.styleValue e q = s.page.styleValue e q := by
  induction ops generalizing s with
  | nil => rfl
  | cons op rest ih =>
    have hop : op.keepsListeners := hops op (by simp)
    rw [run_cons, ih (fun op' h => hops op' (List.mem_cons_of_mem _ h))
      (by rw [table_call hop]; exact hlisteners) (fun n => by simpa using hprops (n + 1)),
      page_call hop]
    -- the call writes only the class's element, on properties of its baseline
    refine Page.styleValue_setEach_of_not_covers fun hc => ?_
    obtain ⟨src, ev, r, hr, hre, width, hq⟩ := covers_callWrites hc
    have hel : e = el := by
      rcases hlisteners src ev r hr with rfl | rfl | rfl <;> exact hre.symm
    have hbase : q ∈ base.map Prod.fst := by
      rcases mem_assignments_keys_or s.context _ _ (hlisteners src ev r hr) hq with hk | hk
      · exact hk
      · exact hprops 0 q (by simpa using hk)
    rcases hout with h | h
    · exact h hel
    · exact h hbase

theorem size_run {s : Session} {ops : List Call} (hops : ∀ op ∈ ops, op.keepsListeners) :
    (s.run ops).page.size = s.page.size := by
  induction ops generalizing s with
  | nil => rfl
  | cons op rest ih =>
    rw [run_cons, ih fun op' h => hops op' (List.mem_cons_of_mem _ h), page_call (hops op (by simp)),
      Page.size_setEach]

/-- A responsive class needs a window. -/
theorem Context.width_isSome_of_responsive {c : Context} {tok : Token}
    (h : c.modeOf tok = .responsive) : c.width.isSome := by
  cases hw : c.width with
  | none =>
    simp only [Context.modeOf, hw, Option.isSome_none, Bool.false_and] at h
    split at h <;> try split at h <;> try split at h
    all_goals simp at h
  | some w => rfl

/-! ## One class applied to a fresh session -/

@[simp] theorem forEvent_start (reg : Registry) (bps : BreakpointTable) (width : Option Float)
    (page : Page) (src : Source) (ev : String) :
    ((start reg bps width page).table src).forEvent ev = [] := by
  cases src with
  | window => cases width <;> rfl
  | element el =>
    simp only [start, table, handlersOf, Array.getD_eq_getD_getElem?, Array.getElem?_replicate]
    split <;> rfl

@[simp] theorem context_start (reg : Registry) (bps : BreakpointTable) (width : Option Float)
    (page : Page) : (start reg bps width page).context = ⟨reg, bps, width⟩ := by
  cases width <;> rfl

@[simp] theorem context_newBinding (s : Session) : s.newBinding.1.context = s.context :=
  rfl

section Fresh

variable {reg : Registry} {bps : BreakpointTable} {page : Page} {el : Nat} {c : String}
  {tok : Token}

/-- A hover class applied to an element of a fresh session leaves the page as it was, and the
session's listeners are the class's two, with the element's values as the baseline. -/
theorem apply_hover {width : Option Float} (hel : el < page.size) (hc : parseClass c = some tok)
    (hm : Context.modeOf ⟨reg, bps, width⟩ tok = .hover) :
    let S := (start reg bps width page).run [.apply el c]
    let base := ((⟨reg, bps, width⟩ : Context).properties tok.type).map
      fun q => (q, page.styleValue el q)
    S.page = page ∧ S.context = ⟨reg, bps, width⟩ ∧
      (S.table (.element el)).forEvent "mouseover" = [.write el tok base] ∧
      (S.table (.element el)).forEvent "mouseout" = [.restore el base] ∧
      ∀ src ev, ∀ r ∈ (S.table src).forEvent ev, r = .write el tok base ∨ r = .restore el base := by
  intro S base
  obtain ⟨s₀, hs₀⟩ : ∃ s₀, s₀ = (start reg bps width page).newBinding.1 := ⟨_, rfl⟩
  have hctx : s₀.context = ⟨reg, bps, width⟩ := by simp [hs₀]
  have hm₀ : s₀.modeOf tok = .hover := by rw [modeOf, hctx, hm]
  have hS : S = (s₀.bindHover el tok 0).count 0 .hover := by
    rw [hs₀] at hm₀ ⊢
    exact applyClass_of_hover hc hm₀
  have hopen : (s₀.binding 0).closed = false := by rw [hs₀]; rfl
  have hhas : s₀.hasTable (.element el) = true := by simp [hs₀, hasTable, newBinding, start, hel]
  have hempty : ∀ src ev, (s₀.table src).forEvent ev = [] := by
    intro src ev
    rw [hs₀]
    exact forEvent_start reg bps width page src ev
  have hbase : s₀.snapshot el (s₀.context.properties tok.type) = base := by
    rw [hctx, hs₀]
    rfl
  -- the two listeners land in the element's table, one for each event
  have htable : ∀ src ev, (S.table src).forEvent ev =
      (if src = .element el ∧ ev = "mouseover" then [.write el tok base] else []) ++
        (if src = .element el ∧ ev = "mouseout" then [.restore el base] else []) := by
    intro src ev
    rw [hS, table_count, bindHover, forEvent_listen_of_open (by rw [closed_listen]; exact hopen),
      hasTable_listen]
    simp only [forEvent_listen_of_open hopen, hbase, hempty, hhas]
    by_cases hsrc : src = .element el <;> by_cases hover : ev = "mouseover" <;> simp [hsrc, hover]
  refine ⟨?_, ?_, ?_, ?_, fun src ev r hr => ?_⟩
  · rw [hS, hs₀]
    simp [count, bindHover]
    rfl
  · rw [hS, context_count, bindHover, context_listen, context_listen, hctx]
  · rw [htable]
    simp
  · rw [htable]
    simp
  · rw [htable] at hr
    by_cases hsrc : src = .element el <;> by_cases hover : ev = "mouseover" <;> simp_all

/-- A responsive class applied to an element of a fresh session with a window evaluates once at
the window's width, and the session's listener is the class's `resize` one, with the element's
values as the baseline. -/
theorem apply_responsive {w₀ : Float} (hc : parseClass c = some tok)
    (hm : Context.modeOf ⟨reg, bps, some w₀⟩ tok = .responsive) :
    let S := (start reg bps (some w₀) page).run [.apply el c]
    let base := ((⟨reg, bps, some w₀⟩ : Context).properties tok.type).map
      fun q => (q, page.styleValue el q)
    S.page = page.setAll el ((Reaction.evaluate el tok base).assignments reg bps w₀) ∧
      S.context = ⟨reg, bps, some w₀⟩ ∧
      (S.table .window).forEvent "resize" = [.evaluate el tok base] ∧
      ∀ src ev, ∀ r ∈ (S.table src).forEvent ev, r = .evaluate el tok base := by
  intro S base
  obtain ⟨s₀, hs₀⟩ : ∃ s₀, s₀ = (start reg bps (some w₀) page).newBinding.1 := ⟨_, rfl⟩
  have hctx : s₀.context = ⟨reg, bps, some w₀⟩ := by simp [hs₀]
  have hm₀ : s₀.modeOf tok = .responsive := by rw [modeOf, hctx, hm]
  have hS : S = (s₀.bindResponsive el tok 0).count 0 .responsive := by
    rw [hs₀] at hm₀ ⊢
    exact applyClass_of_responsive hc hm₀
  have hbase : s₀.snapshot el (s₀.context.properties tok.type) = base := by
    rw [hctx, hs₀]
    rfl
  have hbind : s₀.bindResponsive el tok 0 =
      (s₀.react (.evaluate el tok base)).listen 0 .window "resize" (.evaluate el tok base) := by
    simp only [bindResponsive, hbase]
  have hopen : ((s₀.react (.evaluate el tok base)).binding 0).closed = false := by
    rw [react_eq, hs₀]
    rfl
  have hhas : (s₀.react (.evaluate el tok base)).hasTable .window = true := by
    rw [react_eq, hs₀]
    rfl
  have hempty : ∀ src ev, ((s₀.react (.evaluate el tok base)).table src).forEvent ev = [] := by
    intro src ev
    rw [react_eq, hs₀]
    exact forEvent_start reg bps (some w₀) page src ev
  have htable : ∀ src ev, (S.table src).forEvent ev =
      if src = .window ∧ ev = "resize" then [.evaluate el tok base] else [] := by
    intro src ev
    rw [hS, table_count, hbind, forEvent_listen_of_open hopen]
    simp [hempty, hhas]
  refine ⟨?_, ?_, ?_, fun src ev r hr => ?_⟩
  · rw [hS, hbind]
    simp [count, react_eq, hs₀, newBinding, start, Reaction.element]
  · rw [hS, context_count, hbind, context_listen, context_react, hctx]
  · rw [htable]
    simp
  · rw [htable] at hr
    split at hr <;> simp_all

/-- After any calls that keep the listeners, a `mouseout` on an element with one hover class
writes the element's values from before the class back to the properties the class's type had
when it was bound, and leaves every other pair alone; while the type keeps within those
properties, nothing else the class wrote remains. -/
theorem hover_binding_mouseout {width : Option Float} (hel : el < page.size)
    (hc : parseClass c = some tok) (hm : Context.modeOf ⟨reg, bps, width⟩ tok = .hover)
    {ops : List Call} (hops : ∀ op ∈ ops, op.keepsListeners) :
    let S := (start reg bps width page).run [.apply el c]
    let K := (⟨reg, bps, width⟩ : Context).properties tok.type
    let T := S.run ops
    let T' := T.run [.dispatch el "mouseout"]
    (∀ q ∈ K, T'.page.styleValue el q = trimBlank (page.styleValue el q)) ∧
    (∀ e q, (e ≠ el ∨ q ∉ K) → T'.page.styleValue e q = T.page.styleValue e q) ∧
    ((∀ n, ∀ q ∈ (S.run (ops.take n)).context.properties tok.type, q ∈ K) →
      ∀ e q, T'.page.styleValue e q =
        if e = el ∧ q ∈ K then trimBlank (page.styleValue el q) else page.styleValue e q) := by
  intro S K T T'
  obtain ⟨hpage, -, -, hout, hlist⟩ := apply_hover hel hc hm
  have hkeys : (K.map fun q => (q, page.styleValue el q)).map Prod.fst = K := by
    simp [Function.comp_def]
  have htab : T.table = ((start reg bps width page).run [.apply el c]).table := table_run hops
  -- the `mouseout` runs the class's restoring listener alone
  have hT' : ∀ e q, T'.page.styleValue e q =
      if e = el ∧ q ∈ K then trimBlank (page.styleValue el q) else T.page.styleValue e q := by
    intro e q
    have hsize : el < T.page.size := by rw [size_run hops, hpage]; exact hel
    show (T.dispatch el "mouseout").1.page.styleValue e q = _
    rw [dispatch_eq]
    simp only [eventWrites, htab, hout, List.map_cons, List.map_nil, Reaction.element,
      Reaction.assignments, Page.setEach]
    rw [Page.styleValue_setAll_map, if_pos hsize]
  refine ⟨fun q hq => ?_, fun e q hout' => ?_, fun hkept e q => ?_⟩
  · rw [hT', if_pos ⟨rfl, hq⟩]
  · rw [hT', if_neg]
    rintro ⟨rfl, hq⟩
    rcases hout' with h | h
    · exact h rfl
    · exact h hq
  · rw [hT']
    split
    · rfl
    · rename_i hnot
      -- elsewhere the run kept the page the class found
      have hconf : T.page.styleValue e q = S.page.styleValue e q := by
        refine @styleValue_run_confined _ _ hops el tok (K.map fun q => (q, page.styleValue el q))
          (fun src ev r hr => ?_) (by rw [hkeys]; exact hkept) e q ?_
        · rcases hlist src ev r hr with h | h
          · exact .inl h
          · exact .inr (.inl h)
        · rw [hkeys]
          by_cases he : e = el
          · exact .inr fun hq => hnot ⟨he, hq⟩
          · exact .inl he
      rw [hconf, hpage]

/-- After any calls that keep the listeners, a resize to a width outside the breakpoint of an
element's one responsive class clears the properties the class's type had when it was bound,
and leaves every other pair alone; while the type keeps within those properties, every other
pair holds its value from before the class. -/
theorem responsive_binding_outside {width : Option Float} (hc : parseClass c = some tok)
    (hm : Context.modeOf ⟨reg, bps, width⟩ tok = .responsive) {ops : List Call}
    (hops : ∀ op ∈ ops, op.keepsListeners) (w : Float) :
    let S := (start reg bps width page).run [.apply el c]
    let K := (⟨reg, bps, width⟩ : Context).properties tok.type
    let T := S.run ops
    let T' := T.run [.resize w]
    T.breakpoints.find? tok.prefixName w = none →
    (∀ q ∈ K, T'.page.styleValue el q = "") ∧
    (∀ e q, (e ≠ el ∨ q ∉ K) → T'.page.styleValue e q = T.page.styleValue e q) ∧
    ((∀ n, ∀ q ∈ (S.run (ops.take n)).context.properties tok.type, q ∈ K) →
      ∀ e q, T'.page.styleValue e q = if e = el ∧ q ∈ K then "" else page.styleValue e q) := by
  intro S K T T' houtside
  obtain ⟨w₀, rfl⟩ : ∃ w₀, width = some w₀ :=
    Option.isSome_iff_exists.1 (Context.width_isSome_of_responsive hm)
  obtain ⟨hpage, -, hresize, hlist⟩ := @apply_responsive reg bps page el c tok w₀ hc hm
  have hkeys : (K.map fun q => (q, page.styleValue el q)).map Prod.fst = K := by
    simp [Function.comp_def]
  have htab : T.table = ((start reg bps (some w₀) page).run [.apply el c]).table := table_run hops
  have htrim : trimBlank "" = "" := by decide
  -- outside the breakpoint the class's listener clears its baseline's properties
  have hT' : ∀ e q, T'.page.styleValue e q =
      if e = el ∧ q ∈ K then "" else T.page.styleValue e q := by
    intro e q
    show (T.resize w).1.page.styleValue e q = _
    rw [resize_page]
    simp only [resizeWrites, htab, hresize, List.map_cons, List.map_nil, Reaction.element,
      Reaction.assignments, houtside, Option.isSome_none, Bool.false_eq_true, if_false,
      Page.setEach, List.map_map, Function.comp_def]
    rw [Page.styleValue_setAll_map, htrim, ite_self]
  refine ⟨fun q hq => ?_, fun e q hout' => ?_, fun hkept e q => ?_⟩
  · rw [hT', if_pos ⟨rfl, hq⟩]
  · rw [hT', if_neg]
    rintro ⟨rfl, hq⟩
    rcases hout' with h | h
    · exact h rfl
    · exact h hq
  · rw [hT']
    split
    · rfl
    · rename_i hnot
      have hne : e ≠ el ∨ q ∉ K := by
        by_cases he : e = el
        · exact .inr fun hq => hnot ⟨he, hq⟩
        · exact .inl he
      -- elsewhere neither the run nor the class's first evaluation wrote
      have hconf : T.page.styleValue e q = S.page.styleValue e q := by
        refine @styleValue_run_confined _ _ hops el tok (K.map fun q => (q, page.styleValue el q))
          (fun src ev r hr => .inr (.inr (hlist src ev r hr))) (by rw [hkeys]; exact hkept) e q ?_
        rw [hkeys]
        exact hne
      rw [hconf, hpage, Page.styleValue_setAll_of_not_mem]
      rcases hne with h | h
      · exact .inl h
      · refine .inr fun hq => h ?_
        rcases mem_assignments_keys_or ⟨reg, bps, some w₀⟩ bps w₀ (.inr (.inr rfl)) hq with hk | hk
        · rw [hkeys] at hk
          exact hk
        · exact hk

end Fresh

end Session

open Session in
/-- **What a single binding undoes.** Apply one class to an element of a fresh session, then make
any calls that keep the listeners (events, resizes and extensions of the resolver) in any order.
Let `K` be the properties of the class's type when it was bound. For a hover class, a
`mouseout` writes back to `K` the element's values from before the class and leaves every other
pair alone; for a responsive class, a resize to a width outside its breakpoint clears `K` and
leaves every other pair alone. While the type keeps within `K`, nothing else the class wrote
remains: the page outside `K` is the page before the class. -/
theorem binding_undoes_bound_properties (reg : Registry) (bps : BreakpointTable)
    (width : Option Float) (page : Page) (el : Nat) (hel : el < page.size) (c : String)
    (tok : Token) (hc : parseClass c = some tok) (ops : List Call)
    (hops : ∀ op ∈ ops, op.keepsListeners) :
    let S := (start reg bps width page).run [.apply el c]
    let K := (⟨reg, bps, width⟩ : Context).properties tok.type
    let T := S.run ops
    let kept := ∀ n, ∀ q ∈ (S.run (ops.take n)).context.properties tok.type, q ∈ K
    (Context.modeOf ⟨reg, bps, width⟩ tok = .hover →
      let T' := T.run [.dispatch el "mouseout"]
      (∀ q ∈ K, T'.page.styleValue el q = trimBlank (page.styleValue el q)) ∧
      (∀ e q, (e ≠ el ∨ q ∉ K) → T'.page.styleValue e q = T.page.styleValue e q) ∧
      (kept → ∀ e q, T'.page.styleValue e q =
        if e = el ∧ q ∈ K then trimBlank (page.styleValue el q) else page.styleValue e q)) ∧
    (Context.modeOf ⟨reg, bps, width⟩ tok = .responsive → ∀ w,
      T.breakpoints.find? tok.prefixName w = none →
      let T' := T.run [.resize w]
      (∀ q ∈ K, T'.page.styleValue el q = "") ∧
      (∀ e q, (e ≠ el ∨ q ∉ K) → T'.page.styleValue e q = T.page.styleValue e q) ∧
      (kept → ∀ e q, T'.page.styleValue e q =
        if e = el ∧ q ∈ K then "" else page.styleValue e q)) :=
  ⟨fun hm => hover_binding_mouseout hel hc hm hops,
    fun hm w => responsive_binding_outside hc hm hops w⟩

/-! ### A hover padding class -/

theorem parseClass_hover_padding : parseClass "hover:p-10px" = some ⟨"hover", "p", "10", "px"⟩ := by
  simp only [parseClass]; simp; decide

theorem modeOf_hover_padding :
    Context.modeOf ⟨⟨[("p", ["padding"])]⟩, ⟨[]⟩, none⟩ ⟨"hover", "p", "10", "px"⟩ = .hover := by
  have hh : Token.isHover ⟨"hover", "p", "10", "px"⟩ = true := by cbv
  simp only [Context.modeOf, hh]
  decide

theorem properties_padding :
    Context.properties ⟨⟨[("p", ["padding"])]⟩, ⟨[]⟩, none⟩ "p" = ["padding"] := by
  have hk : kebabCase "padding" = "padding" := by cbv
  simp [Context.properties, Registry.targets?, Registry.properties?, compileTargets,
    compileTarget, hk]
  decide

open Session in
/-- A hover padding class on an empty element, moused over before the `mouseout`. -/
theorem binding_undoes_bound_properties_hover_padding :
    0 < (⟨[], #[default]⟩ : Page).size ∧
    parseClass "hover:p-10px" = some ⟨"hover", "p", "10", "px"⟩ ∧
    (∀ op ∈ [Call.dispatch 0 "mouseover"], op.keepsListeners) ∧
    let page : Page := ⟨[], #[default]⟩
    let S := (start ⟨[("p", ["padding"])]⟩ ⟨[]⟩ none page).run [.apply 0 "hover:p-10px"]
    let K := (⟨⟨[("p", ["padding"])]⟩, ⟨[]⟩, none⟩ : Context).properties "p"
    let T := S.run [.dispatch 0 "mouseover"]
    let kept := ∀ n, ∀ q ∈ (S.run ([Call.dispatch 0 "mouseover"].take n)).context.properties "p",
      q ∈ K
    (Context.modeOf ⟨⟨[("p", ["padding"])]⟩, ⟨[]⟩, none⟩ ⟨"hover", "p", "10", "px"⟩ = .hover →
      let T' := T.run [.dispatch 0 "mouseout"]
      (∀ q ∈ K, T'.page.styleValue 0 q = trimBlank (page.styleValue 0 q)) ∧
      (∀ e q, (e ≠ 0 ∨ q ∉ K) → T'.page.styleValue e q = T.page.styleValue e q) ∧
      (kept → ∀ e q, T'.page.styleValue e q =
        if e = 0 ∧ q ∈ K then trimBlank (page.styleValue 0 q) else page.styleValue e q)) ∧
    (Context.modeOf ⟨⟨[("p", ["padding"])]⟩, ⟨[]⟩, none⟩ ⟨"hover", "p", "10", "px"⟩ =
        .responsive → ∀ w,
      T.breakpoints.find? "hover" w = none →
      let T' := T.run [.resize w]
      (∀ q ∈ K, T'.page.styleValue 0 q = "") ∧
      (∀ e q, (e ≠ 0 ∨ q ∉ K) → T'.page.styleValue e q = T.page.styleValue e q) ∧
      (kept → ∀ e q, T'.page.styleValue e q =
        if e = 0 ∧ q ∈ K then "" else page.styleValue e q)) :=
  ⟨by decide, parseClass_hover_padding, by decide,
    binding_undoes_bound_properties ⟨[("p", ["padding"])]⟩ ⟨[]⟩ none ⟨[], #[default]⟩ 0
      (by decide) "hover:p-10px" ⟨"hover", "p", "10", "px"⟩ parseClass_hover_padding
      [.dispatch 0 "mouseover"] (by decide)⟩

open Session in
/-- Once the resolver gives a hover class's type another property, the `mouseover` writes it
and the `mouseout`, which restores the properties the type had at binding time, leaves it. -/
theorem mouseout_keeps_redefined_property :
    let S := (start ⟨[("p", ["padding"])]⟩ ⟨[]⟩ none ⟨[], #[default]⟩).run [.apply 0 "hover:p-10px"]
    let T := S.run [.use [] [[("p", .list [.str "margin"])]], .dispatch 0 "mouseover"]
    (⟨[], #[default]⟩ : Page).styleValue 0 "margin" = "" ∧
      T.page.styleValue 0 "margin" = "10px" ∧
      (T.run [.dispatch 0 "mouseout"]).page.styleValue 0 "margin" = "10px" := by
  intro S T
  -- keep the sessions opaque, so that no step evaluates them
  have hS : S = (start ⟨[("p", ["padding"])]⟩ ⟨[]⟩ none ⟨[], #[default]⟩).run
      [.apply 0 "hover:p-10px"] := rfl
  have hT : T = (S.call (.use [] [[("p", .list [.str "margin"])]])).call
      (.dispatch 0 "mouseover") := rfl
  clear_value T S
  -- what the extension makes of the class
  have hdefine : (Registry.defineAll ⟨[("p", ["padding"])]⟩ [("p", .list [.str "margin"])]) =
      (⟨[("p", ["margin"])]⟩, []) := by
    have hblank : Text.isAllBlank "margin" = false := by decide
    simp [Registry.defineAll, sortByKey, Registry.defineEach, Registry.entryProperties,
      Config.Value.stringList?, Config.Value.strings?, Registry.define, Registry.check,
      Registry.insertSorted, hblank]
  have hdecl : ∀ base, Registry.declarations ⟨[("p", ["margin"])]⟩ ⟨"hover", "p", "10", "px"⟩ base =
      [("margin", "10px")] := by
    intro base
    have hk : kebabCase "margin" = "margin" := by cbv
    have hf : formatValue "10" "px" = "10px" := by cbv
    simp [Registry.declarations, Registry.resolve, Registry.targets?, Registry.properties?,
      compileTargets, compileTarget, hk, isCustomType, resolveTargets, Target.format, hf, Write.target]
  have hel : 0 < (⟨[], #[default]⟩ : Page).size := by decide
  obtain ⟨hpage, hctx, hover, -, -⟩ := apply_hover hel parseClass_hover_padding modeOf_hover_padding
  rw [← hS] at hpage hctx hover
  -- the extension redefines the type and keeps the page and the listeners
  obtain ⟨S₁, hS₁⟩ : ∃ S₁, S₁ = S.call (.use [] [[("p", .list [.str "margin"])]]) := ⟨_, rfl⟩
  rw [← hS₁] at hT
  have htab : S₁.table = S.table := by rw [hS₁]; exact table_call rfl
  have hpage₁ : S₁.page = ⟨[], #[default]⟩ := by
    rw [hS₁, page_call rfl]
    simp only [callWrites, Page.setEach]
    exact hpage
  have hreg₁ : S₁.registry = ⟨[("p", ["margin"])]⟩ := by
    have hreg : S.registry = ⟨[("p", ["padding"])]⟩ := congrArg Context.registry hctx
    rw [hS₁]
    simp only [call, use, List.foldl_cons, List.foldl_nil, hreg, hdefine]
  -- so the `mouseover` writes a margin, which no listener of the class restores
  have hmargin : T.page.styleValue 0 "margin" = "10px" := by
    have htrim : trimBlank "10px" = "10px" := by decide
    rw [hT, page_call rfl]
    simp only [callWrites, eventWrites, htab, hover, List.map_cons, List.map_nil,
      Reaction.element, Reaction.assignments, hreg₁, hdecl, hpage₁, Page.setEach, Page.setAll,
      Page.styleValue_setStyle]
    simp [Page.size, htrim]
  have hops : ∀ op ∈ ([.use [] [[("p", .list [.str "margin"])]], .dispatch 0 "mouseover"] :
      List Call), op.keepsListeners := by decide
  have hframe := (hover_binding_mouseout hel parseClass_hover_padding
    modeOf_hover_padding hops).2.1 0 "margin"
    (.inr (by show "margin" ∉ Context.properties ⟨⟨[("p", ["padding"])]⟩, ⟨[]⟩, none⟩ "p"
              rw [properties_padding]; decide))
  rw [← hS] at hframe
  simp only [run_cons, run_nil] at hframe
  rw [← hS₁, ← hT] at hframe
  exact ⟨by decide, hmargin, hframe.trans hmargin⟩

end UtilityStyles
