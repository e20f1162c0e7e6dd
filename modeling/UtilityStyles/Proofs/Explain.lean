import UtilityStyles.Proofs.Lifecycle
import UtilityStyles.Resolver.Explain
/-!
# Explaining a class predicts applying it

An explanation works out what a class would do along a path of its own: it reads the class,
takes its mode, and resolves its declarations against an element without style, never touching a
page. Applying the class goes through the session instead: a binding, the mode, the baseline
snapshot, listeners and live reads of the element.

On an element with an empty inline style the two agree. The binding records the explanation's
mode, once. The element's style is the explanation's writes applied in order to an empty style
(`InlineStyle.applyWrites`) when the class takes effect at once, that is when it is immediate or
responsive inside its breakpoint. In every other case the style stays empty, and a hover class
reaches the same style on its first `mouseover`. The reason is that a baseline taken on an empty
style reads as empty for every property, which is exactly how an explanation reads the element.

## Main definitions

* `Css.InlineStyle.applyWrites` : writes applied in order to a style.
* `Explanation.freshStyle` : the style an explanation predicts right after applying.

## Main statements

* `Page.style_writeAll` : declarations written to an element, read on its style.
* `Session.counts_apply` : the binding records the explanation's mode.
* `Session.style_apply_of_empty`, `Session.style_apply_mouseover` : the style before and after
  the first `mouseover`.
* `explain_predicts_apply` : the explanation predicts what applying does, along any run of calls.
-/

namespace UtilityStyles

open UtilityStyles.Class (parseClass)
open UtilityStyles.Css (InlineStyle)

namespace Css.InlineStyle

/-- Writes applied in order to a style, each setting the property it lands on. -/
def applyWrites (s : InlineStyle) (ws : List Write) : InlineStyle :=
  ws.foldl (fun st w => st.set w.target w.value) s

@[simp] theorem applyWrites_nil (s : InlineStyle) : s.applyWrites [] = s :=
  rfl

/-- Clearing a property of the empty style leaves it empty. -/
@[simp] theorem empty_set_blank (p : String) : empty.set p "" = empty :=
  rfl

theorem foldl_set_blank_empty (ps : List String) :
    (ps.map fun p => (p, "")).foldl (fun st a => st.set a.1 a.2) empty = empty := by
  induction ps with
  | nil => rfl
  | cons p rest ih => simpa using ih

end Css.InlineStyle

/-- The inline style an explanation predicts for an element without style right after its class
is applied: the writes in order when the class takes effect at once (immediate, or responsive
inside its breakpoint), no property otherwise. -/
def Explanation.freshStyle (ex : Explanation) : InlineStyle :=
  if ex.mode = .immediate ∨ (ex.mode = .responsive ∧ ex.active = true) then
    InlineStyle.empty.applyWrites ex.writes
  else .empty

namespace Context

variable {c : Context} {cls : String} {tok : Token}

theorem explain_mode (c : Context) (cls : String) :
    (c.explain cls).mode = ((parseClass cls).map c.modeOf).getD .inert := by
  unfold explain
  split
  · rename_i h
    simp [h]
  · rename_i tok h
    simp only [h, Option.map_some, Option.getD_some]
    split
    · rfl
    · split <;> rfl

theorem explain_writes (h : parseClass cls = some tok) (hm : c.modeOf tok ≠ .inert) :
    (c.explain cls).writes = c.registry.resolve tok.type tok.value tok.unit fun _ => "" := by
  have hm' : (c.modeOf tok == .inert) = false := by
    cases hmode : c.modeOf tok with
    | inert => exact absurd hmode hm
    | immediate | responsive | hover => rfl
  unfold explain
  simp only [h, hm', Bool.false_eq_true, if_false]
  split <;> rfl

theorem explain_active (h : parseClass cls = some tok) (hm : c.modeOf tok = .responsive) :
    (c.explain cls).active = (c.breakpoints.find? tok.prefixName (c.width.getD 0)).isSome := by
  unfold explain
  simp only [h, hm]
  rfl

end Context

namespace Page

variable {p : Page} {el : Nat}

theorem style_setStyle (h : el < p.size) (prop v : String) :
    ((p.setStyle el prop v).get el).style = (p.get el).style.set prop v := by
  simp only [size] at h
  simp [setStyle, get, h]

theorem style_setAll (h : el < p.size) (as : List (String × String)) :
    ((p.setAll el as).get el).style = as.foldl (fun st a => st.set a.1 a.2) (p.get el).style := by
  induction as generalizing p with
  | nil => rfl
  | cons a rest ih =>
    simp only [setAll, List.foldl_cons]
    rw [ih (by simpa using h), style_setStyle h]

/-- Declarations written to an element are its style's writes, in order. -/
theorem style_writeAll (h : el < p.size) (ws : List Write) :
    ((p.writeAll el ws).get el).style = (p.get el).style.applyWrites ws := by
  rw [writeAll_eq_setAll, style_setAll h, List.foldl_map]
  rfl

/-- An element without inline style reads as empty for every property. -/
theorem styleValue_of_empty (h : (p.get el).style = .empty) : p.styleValue el = fun _ => "" := by
  funext q
  simp only [styleValue, h]
  rfl

end Page

/-- A baseline of empty values reads as empty for every property. -/
theorem baselineRead_blank (ps : List String) : baselineRead (ps.map fun q => (q, "")) = fun _ => "" := by
  funext q
  induction ps with
  | nil => rfl
  | cons p rest ih =>
    by_cases hq : p = q
    · simp [baselineRead, hq]
    · simpa [baselineRead, hq] using ih

namespace Session

variable {s : Session} {el : Nat}

/-- A snapshot of an element without inline style holds the empty value for every property. -/
theorem snapshot_of_empty (h : (s.page.get el).style = .empty) (ps : List String) :
    s.snapshot el ps = ps.map fun q => (q, "") := by
  simp [snapshot, Page.styleValue_of_empty h]

/-- Writing a class's declarations at once writes them on the element's style, in order; an
unknown type writes nothing. -/
theorem style_applyStyle (hel : el < s.page.size) (type value unit : String) :
    ((s.applyStyle el type value unit).1.page.get el).style =
      (s.page.get el).style.applyWrites (s.registry.resolve type value unit (s.page.styleValue el)) := by
  unfold applyStyle
  dsimp only
  split
  · rename_i h
    rw [List.isEmpty_iff.1 h]
    rfl
  · exact Page.style_writeAll hel _

theorem counts_count_self {b : Nat} (h : b < s.bindings.size) (mode : Mode) :
    ((s.count b mode).binding b).counts = (s.binding b).counts.record mode := by
  rw [binding_count, if_pos ⟨rfl, h⟩]

/-- Applying one class to an element is applying it under the new binding. -/
theorem apply_eq (s : Session) (el : Nat) (cls : String) :
    s.apply el cls = (s.newBinding.1.applyClass el s.bindings.size cls, s.bindings.size) :=
  rfl

@[simp] theorem page_note (s : Session) (level : LogLevel) (msg : String)
    (fs : List (String × LogValue)) : (s.note level msg fs).page = s.page :=
  rfl

@[simp] theorem page_newBinding (s : Session) : s.newBinding.1.page = s.page :=
  rfl

@[simp] theorem registry_newBinding (s : Session) : s.newBinding.1.registry = s.registry :=
  rfl

@[simp] theorem handlers_newBinding (s : Session) : s.newBinding.1.handlers = s.handlers :=
  rfl

@[simp] theorem table_newBinding (s : Session) : s.newBinding.1.table = s.table :=
  rfl

@[simp] theorem context_registry (s : Session) : s.context.registry = s.registry :=
  rfl

/-- The binding of an applied class records it once, in the mode its explanation gives. -/
theorem counts_apply (s : Session) (el : Nat) (cls : String) :
    ((s.apply el cls).1.binding (s.apply el cls).2).counts =
      (⟨0, 0, 0, 0⟩ : ModeCounts).record (s.context.explain cls).mode := by
  rw [apply_eq]
  dsimp only
  -- the step before the counting keeps the new binding, which has counted nothing yet
  have hcount : ∀ (t : Session) (mode : Mode), t.bindings.size = s.bindings.size + 1 →
      (t.binding s.bindings.size).counts = ⟨0, 0, 0, 0⟩ →
      ((t.count s.bindings.size mode).binding s.bindings.size).counts =
        (⟨0, 0, 0, 0⟩ : ModeCounts).record mode := by
    intro t mode hsize h0
    rw [counts_count_self (by omega), h0]
  have h0 : (s.newBinding.1.binding s.bindings.size).counts = ⟨0, 0, 0, 0⟩ := by
    simp [binding_of_size_le (Nat.le_refl _)]
  rw [Context.explain_mode]
  cases hp : parseClass cls with
  | none =>
    rw [applyClass_of_none hp]
    exact hcount _ _ (by simp [note]) h0
  | some tok =>
    have hmode : s.newBinding.1.modeOf tok = s.context.modeOf tok := rfl
    simp only [Option.map_some, Option.getD_some]
    cases hm : s.context.modeOf tok with
    | inert =>
      rw [applyClass_of_inert hp (hmode.trans hm)]
      exact hcount _ _ (by simp [note]) h0
    | immediate =>
      rw [applyClass_of_immediate hp (hmode.trans hm)]
      exact hcount _ _ (by simp) (by simpa [binding] using h0)
    | responsive =>
      rw [applyClass_of_responsive hp (hmode.trans hm)]
      exact hcount _ _ (by simp [bindResponsive]) (by rw [bindResponsive, counts_listen]; simpa [binding] using h0)
    | hover =>
      rw [applyClass_of_hover hp (hmode.trans hm)]
      exact hcount _ _ (by simp [bindHover]) (by simpa [bindHover] using h0)

section Fresh

variable (hel : el < s.page.size) (hstyle : (s.page.get el).style = .empty)
include hel hstyle

/-- On an element without inline style, applying a class leaves the style its explanation
predicts, before any event. -/
theorem style_apply_of_empty (cls : String) :
    ((s.apply el cls).1.page.get el).style = (s.context.explain cls).freshStyle := by
  rw [apply_eq]
  dsimp only
  have hel' : el < s.newBinding.1.page.size := by simpa using hel
  have hread : s.newBinding.1.page.styleValue el = fun _ => "" := Page.styleValue_of_empty hstyle
  have hbase : ∀ ps, s.newBinding.1.snapshot el ps = ps.map fun q => (q, "") :=
    snapshot_of_empty hstyle
  have hex := Context.explain_mode s.context cls
  cases hp : parseClass cls with
  | none =>
    simp only [hp, Option.map_none, Option.getD_none] at hex
    rw [applyClass_of_none hp]
    simpa [Explanation.freshStyle, hex] using hstyle
  | some tok =>
    have hmode : s.newBinding.1.modeOf tok = s.context.modeOf tok := rfl
    simp only [hp, Option.map_some, Option.getD_some] at hex
    cases hm : s.context.modeOf tok with
    | inert =>
      rw [applyClass_of_inert hp (hmode.trans hm)]
      simpa [Explanation.freshStyle, hex, hm] using hstyle
    | immediate =>
      rw [applyClass_of_immediate hp (hmode.trans hm), page_count, style_applyStyle hel', hread]
      simp only [Explanation.freshStyle, hex, hm, true_or, if_true]
      rw [Context.explain_writes hp (by simp [hm])]
      simp [hstyle]
    | responsive =>
      rw [applyClass_of_responsive hp (hmode.trans hm), page_count, bindResponsive, page_listen,
        hbase]
      simp only [Explanation.freshStyle, hex, hm, Context.explain_active hp hm, react,
        baselineRead_blank]
      -- inside the breakpoint the declarations are written, outside the properties cleared
      by_cases hin : (s.context.breakpoints.find? tok.prefixName (s.context.width.getD 0)).isSome
      · have hin' : (s.newBinding.1.breakpoints.find? tok.prefixName
            ((s.newBinding.1.window.map (·.width)).getD 0)).isSome := hin
        rw [if_pos hin', Page.style_writeAll hel', Context.explain_writes hp (by simp [hm])]
        simp [hin, hstyle]
      · have hin' : ¬ (s.newBinding.1.breakpoints.find? tok.prefixName
            ((s.newBinding.1.window.map (·.width)).getD 0)).isSome := hin
        rw [if_neg hin', Page.style_setAll hel', List.map_map]
        simpa [hin, hstyle, Function.comp_def] using InlineStyle.foldl_set_blank_empty _
    | hover =>
      rw [applyClass_of_hover hp (hmode.trans hm), page_count, bindHover, page_listen, page_listen]
      simpa [Explanation.freshStyle, hex, hm] using hstyle

/-- On an element without inline style and without `mouseover` listeners, the first
`mouseover` after applying a hover class writes the explanation's writes on the empty style. -/
theorem style_apply_mouseover (hh : el < s.handlers.size)
    (hfresh : (s.table (.element el)).forEvent "mouseover" = []) {cls : String}
    (hhover : (s.context.explain cls).mode = .hover) :
    (((s.apply el cls).1.dispatch el "mouseover").1.page.get el).style =
      InlineStyle.empty.applyWrites (s.context.explain cls).writes := by
  rw [Context.explain_mode] at hhover
  obtain ⟨tok, hp, hm⟩ : ∃ tok, parseClass cls = some tok ∧ s.context.modeOf tok = .hover := by
    cases hp : parseClass cls with
    | none => simp [hp] at hhover
    | some tok => exact ⟨tok, rfl, by simpa [hp] using hhover⟩
  obtain ⟨s₁, hs₁⟩ : ∃ s₁, s₁ = s.newBinding.1 := ⟨_, rfl⟩
  obtain ⟨base, hbase⟩ : ∃ base, base = s₁.snapshot el (s₁.context.properties tok.type) :=
    ⟨_, rfl⟩
  have hopen : (s₁.binding s.bindings.size).closed = false := by
    simp [hs₁, binding_of_size_le (Nat.le_refl _)]
  have hhas : s₁.hasTable (.element el) = true := by simpa [hs₁, hasTable] using hh
  have hmode : s₁.modeOf tok = .hover := by rw [hs₁]; exact hm
  obtain ⟨t, ht⟩ : ∃ t, t = (s₁.bindHover el tok s.bindings.size).count s.bindings.size .hover :=
    ⟨_, rfl⟩
  have hctx : t.context = s.context := by simp [ht, bindHover, hs₁]
  have hreg : t.registry = s.registry := congrArg Context.registry hctx
  have hpage : t.page = s.page := by simp [ht, bindHover, hs₁]
  -- the new `mouseover` listener is the element's only one
  have hover_table : (t.table (.element el)).forEvent "mouseover" = [.write el tok base] := by
    rw [ht, table_count, bindHover, forEvent_listen_of_open (by rw [closed_listen]; exact hopen),
      if_neg (by simp), forEvent_listen_of_open hopen, if_pos ⟨rfl, rfl, hhas⟩, ← hbase, hs₁,
      table_newBinding, hfresh]
    rfl
  rw [apply_eq, ← hs₁, applyClass_of_hover hp hmode, ← ht, dispatch_eq]
  dsimp only
  rw [eventWrites, hover_table]
  simp only [List.map_cons, List.map_nil, Page.setEach, Reaction.element, Reaction.assignments]
  rw [Page.style_setAll (by simpa [hpage] using hel), Registry.declarations, List.foldl_map, hbase,
    snapshot_of_empty (by simpa [hs₁] using hstyle), baselineRead_blank, hpage, hstyle, hreg,
    Context.explain_writes hp (by simp [hm])]
  rfl

end Fresh

end Session

open Session in
/-- **Explaining a class predicts applying it.** Take a session after any run of calls, and an
element of its page with an empty inline style and no `mouseover` listener. Applying a class to
it makes a binding that records the explanation's mode, once. The element's style is then the
explanation's writes applied in order to an empty style when the class is immediate, or
responsive inside its breakpoint, and stays empty otherwise. After one `mouseover`, a hover
class leaves the explanation's writes on it. -/
theorem explain_predicts_apply (reg : Registry) (bps : BreakpointTable) (width : Option Float)
    (page : Page) (calls : List Call) (hcalls : ∀ c ∈ calls, c.onPage page.size) (el : Nat)
    (hel : el < page.size) (cls : String) :
    let s := (start reg bps width page).run calls
    let ex := s.context.explain cls
    let t := (s.apply el cls).1
    (s.page.get el).style = .empty → (s.table (.element el)).forEvent "mouseover" = [] →
    (t.binding (s.apply el cls).2).counts = (⟨0, 0, 0, 0⟩ : ModeCounts).record ex.mode ∧
    (t.page.get el).style =
      (if ex.mode = .immediate ∨ (ex.mode = .responsive ∧ ex.active = true) then
        InlineStyle.empty.applyWrites ex.writes
      else .empty) ∧
    (ex.mode = .hover →
      ((t.dispatch el "mouseover").1.page.get el).style = InlineStyle.empty.applyWrites ex.writes) := by
  intro s ex t hstyle hfresh
  obtain ⟨m, hs⟩ : ∃ m, s.Tracked m := (tracked_start reg bps width page).exists_run hcalls
  have hel' : el < s.page.size := by rw [page_size_run]; simpa [start] using hel
  have hh : el < s.handlers.size := by rw [hs.handlers]; exact hel'
  exact ⟨counts_apply s el cls, style_apply_of_empty hel' hstyle cls,
    style_apply_mouseover hel' hstyle hh hfresh⟩

open Session in
/-- A hover padding class on the one element of a fresh page. -/
theorem explain_predicts_apply_hover_padding :
    (∀ c ∈ ([] : List Call), c.onPage (⟨[], #[default]⟩ : Page).size) ∧
    0 < (⟨[], #[default]⟩ : Page).size ∧
    let s := (start ⟨[("p", ["padding"])]⟩ ⟨[]⟩ none ⟨[], #[default]⟩).run []
    let ex := s.context.explain "hover:p-10px"
    let t := (s.apply 0 "hover:p-10px").1
    (s.page.get 0).style = .empty ∧ (s.table (.element 0)).forEvent "mouseover" = [] ∧
    (t.binding (s.apply 0 "hover:p-10px").2).counts = (⟨0, 0, 0, 0⟩ : ModeCounts).record ex.mode ∧
    (t.page.get 0).style =
      (if ex.mode = .immediate ∨ (ex.mode = .responsive ∧ ex.active = true) then
        InlineStyle.empty.applyWrites ex.writes
      else .empty) ∧
    (ex.mode = .hover →
      ((t.dispatch 0 "mouseover").1.page.get 0).style = InlineStyle.empty.applyWrites ex.writes) := by
  have hstyle : (((start ⟨[("p", ["padding"])]⟩ ⟨[]⟩ none ⟨[], #[default]⟩).run []).page.get 0).style =
      .empty := rfl
  have hfresh : (((start ⟨[("p", ["padding"])]⟩ ⟨[]⟩ none ⟨[], #[default]⟩).run []).table
      (.element 0)).forEvent "mouseover" = [] := forEvent_start _ _ _ _ _ _
  exact ⟨by decide, by decide, hstyle, hfresh,
    explain_predicts_apply ⟨[("p", ["padding"])]⟩ ⟨[]⟩ none ⟨[], #[default]⟩ [] (by decide) 0
      (by decide) "hover:p-10px" hstyle hfresh⟩

end UtilityStyles
