import UtilityStyles.Proofs.Undo
/-!
# What the calls do to bindings

A binding is created empty and open, gains one attachment for each listener placed for it and
one count for each class applied under it, and is closed once: closing detaches exactly the
listeners it lists. This module reads each operation's effect on the bindings, on the list of
bindings the session keeps (`Session.live`) and on the listener tables, so that the lifecycle
invariants can be proved without unfolding the operations again.

## Main statements

* `Session.binding_listen`, `Session.live_listen` : placing a listener for an open binding.
* `Session.entries_detachAll` : detaching drops exactly the listed entries.
* `Session.binding_closeBinding`, `Session.closeBinding_closeBinding` : closing, once.
* `Session.declareWith_induction`, `Session.makeStyles_induction` : declarations by selector are
  runs of `Session.makeStyle`.
-/

namespace UtilityStyles

/-- The elements a selector picks are elements of the page. -/
theorem Page.lt_size_of_query {p : Page} {sel : String} {els : List Nat}
    (h : p.query sel = .ok els) : ∀ el ∈ els, el < p.size := by
  unfold Page.query at h
  cases hp : Css.Selector.parse sel with
  | error e => simp [hp, Except.map] at h
  | ok sl =>
    simp only [hp, Except.map, Except.ok.injEq] at h
    subst h
    intro el hel
    exact List.mem_range.1 (List.mem_filter.1 hel).1

namespace Session

/-! ## Creating and counting -/

@[simp] theorem default_binding : (default : Binding) = ⟨⟨0, 0, 0, 0⟩, [], false⟩ :=
  rfl

/-- The new binding is the one every number past the end already reads as. -/
@[simp] theorem binding_newBinding (s : Session) (b : Nat) : s.newBinding.1.binding b = s.binding b := by
  simp only [newBinding, binding, Array.getD_eq_getD_getElem?, Array.getElem?_push]
  split
  · subst_vars
    simp
  · rfl

/-- Past the end every number reads as an empty open binding. -/
theorem binding_of_size_le {s : Session} {b : Nat} (h : s.bindings.size ≤ b) :
    s.binding b = default := by
  simp [binding, Array.getD_eq_getD_getElem?, Array.getElem?_eq_none h]

@[simp] theorem size_newBinding (s : Session) :
    s.newBinding.1.bindings.size = s.bindings.size + 1 := by
  simp [newBinding]

theorem binding_count (s : Session) (b : Nat) (mode : Mode) (b' : Nat) :
    (s.count b mode).binding b' =
      if b' = b ∧ b < s.bindings.size then
        { s.binding b with counts := (s.binding b).counts.record mode }
      else s.binding b' :=
  binding_setIfInBounds s b _ b'

@[simp] theorem attachments_count (s : Session) (b : Nat) (mode : Mode) (b' : Nat) :
    ((s.count b mode).binding b').attachments = (s.binding b').attachments := by
  rw [binding_count]
  split
  · rename_i h
    rw [h.1]
  · rfl

@[simp] theorem size_count (s : Session) (b : Nat) (mode : Mode) :
    (s.count b mode).bindings.size = s.bindings.size := by
  simp [count]

@[simp] theorem live_count (s : Session) (b : Nat) (mode : Mode) : (s.count b mode).live = s.live :=
  rfl

@[simp] theorem page_count (s : Session) (b : Nat) (mode : Mode) : (s.count b mode).page = s.page :=
  rfl

/-- Writing a style changes the page, keeping its elements, and the log, and nothing else. -/
theorem applyStyle_eq (s : Session) (el : Nat) (type value unit : String) :
    ∃ page log, (s.applyStyle el type value unit).1 = { s with page := page, log := log } ∧
      page.size = s.page.size := by
  unfold applyStyle
  dsimp only
  split
  · exact ⟨s.page, _, rfl, rfl⟩
  · exact ⟨_, s.log, rfl, by simp [Page.writeAll_eq_setAll]⟩

/-! ## Placing a listener -/

@[simp] theorem size_handlers_attach (s : Session) (src : Source) (ev : String) (r : Reaction) :
    (s.attach src ev r).1.handlers.size = s.handlers.size := by
  cases src with
  | window => cases hw : s.window <;> simp [attach, hw]
  | element el => simp [attach]

@[simp] theorem size_handlers_detach (s : Session) (a : Attachment) :
    (s.detach a).handlers.size = s.handlers.size := by
  unfold detach
  split <;> simp

@[simp] theorem size_handlers_listen (s : Session) (b : Nat) (src : Source) (ev : String)
    (r : Reaction) : (s.listen b src ev r).handlers.size = s.handlers.size := by
  rw [listen_eq]
  unfold enlist
  dsimp only
  split <;> simp

@[simp] theorem live_attach (s : Session) (src : Source) (ev : String) (r : Reaction) :
    (s.attach src ev r).1.live = s.live := by
  cases src with
  | window => cases hw : s.window <;> simp [attach, hw]
  | element el => rfl

@[simp] theorem live_detach (s : Session) (a : Attachment) : (s.detach a).live = s.live := by
  unfold detach
  split <;> rfl

theorem next_attach (s : Session) (src : Source) (ev : String) (r : Reaction) (src' : Source) :
    ((s.attach src ev r).1.table src').next =
      if src' = src ∧ s.hasTable src then (s.table src).next + 1 else (s.table src').next := by
  cases src with
  | window =>
    cases hw : s.window with
    | none => simp [attach, hw, hasTable]
    | some w => cases src' <;> simp [attach, hw, table, handlersOf, hasTable]
  | element el =>
    cases src' with
    | window => simp [attach, table]
    | element el' =>
      simp only [attach, table, handlersOf, handlersOf_setIfInBounds, hasTable, Source.element.injEq]
      by_cases he : el' = el
      · subst he
        by_cases hs : el' < s.handlers.size <;> simp [hs]
      · simp [he]

theorem next_detach (s : Session) (a : Attachment) (src : Source) :
    ((s.detach a).table src).next = (s.table src).next := by
  obtain ⟨src', ev, id⟩ := a
  cases src' with
  | window =>
    cases hw : s.window <;> cases src <;> simp [detach, hw, table, handlersOf]
  | element el =>
    cases src with
    | window => simp [detach, table]
    | element el' =>
      simp only [detach, table, handlersOf, handlersOf_modify]
      split <;> simp_all

/-- Placing a listener for an open binding appends its attachment to the binding, which the
session starts to keep with its first listener. -/
theorem binding_listen {s : Session} {b : Nat} (hb : (s.binding b).closed = false)
    (src : Source) (ev : String) (r : Reaction) (b' : Nat) :
    (s.listen b src ev r).binding b' =
      if b' = b ∧ b < s.bindings.size then
        { s.binding b with
          attachments := (s.binding b).attachments ++ [⟨src, ev, (s.attach src ev r).2⟩] }
      else s.binding b' := by
  have hbd : (s.attach src ev r).1.binding b = s.binding b := by simp [binding]
  rw [listen_eq]
  unfold enlist
  simp only [hbd, hb, Bool.false_eq_true, if_false]
  show ((s.attach src ev r).1.bindings.setIfInBounds b _).getD b' default = _
  rw [binding_setIfInBounds]
  simp [binding]

theorem live_listen {s : Session} {b : Nat} (hb : (s.binding b).closed = false)
    (src : Source) (ev : String) (r : Reaction) :
    (s.listen b src ev r).live =
      if (s.binding b).attachments.isEmpty then s.live ++ [b] else s.live := by
  have hb' : ((s.attach src ev r).1.binding b).closed = false := by simpa [binding] using hb
  rw [listen_eq]
  simp only [enlist, hb', Bool.false_eq_true, if_false, live_attach]
  simp [binding]

/-- Placing a listener changes no binding's counts. -/
@[simp] theorem counts_listen (s : Session) (b : Nat) (src : Source) (ev : String) (r : Reaction)
    (b' : Nat) : ((s.listen b src ev r).binding b').counts = (s.binding b').counts := by
  rw [listen_eq]
  unfold enlist
  dsimp only
  split
  · simp [binding]
  · show (((s.attach src ev r).1.bindings.setIfInBounds b _).getD b' default).counts = _
    rw [binding_setIfInBounds]
    split <;> simp_all [binding]

@[simp] theorem size_listen (s : Session) (b : Nat) (src : Source) (ev : String) (r : Reaction) :
    (s.listen b src ev r).bindings.size = s.bindings.size := by
  rw [listen_eq]
  unfold enlist
  dsimp only
  split <;> simp

theorem entries_listen_of_open {s : Session} {b : Nat} (hb : (s.binding b).closed = false)
    (src : Source) (ev : String) (r : Reaction) (src' : Source) (ev' : String) :
    ((s.listen b src ev r).table src').entries ev' =
      if src' = src ∧ ev' = ev ∧ s.hasTable src then
        (s.table src).entries ev ++ [((s.table src).next + 1, r)]
      else (s.table src').entries ev' := by
  have hb' : ((s.attach src ev r).1.binding b).closed = false := by simpa [binding] using hb
  rw [listen_eq, table_enlist_of_open hb', entries_attach]

theorem next_listen_of_open {s : Session} {b : Nat} (hb : (s.binding b).closed = false)
    (src : Source) (ev : String) (r : Reaction) (src' : Source) :
    ((s.listen b src ev r).table src').next =
      if src' = src ∧ s.hasTable src then (s.table src).next + 1 else (s.table src').next := by
  have hb' : ((s.attach src ev r).1.binding b).closed = false := by simpa [binding] using hb
  rw [listen_eq, table_enlist_of_open hb', next_attach]

/-! ## Closing -/

@[simp] theorem bindings_detachAll (s : Session) (as : List Attachment) :
    (s.detachAll as).bindings = s.bindings := by
  induction as generalizing s with
  | nil => rfl
  | cons a rest ih => simp [detachAll, ih]

@[simp] theorem live_detachAll (s : Session) (as : List Attachment) :
    (s.detachAll as).live = s.live := by
  induction as generalizing s with
  | nil => rfl
  | cons a rest ih => simp [detachAll, ih]

theorem next_detachAll (s : Session) (as : List Attachment) (src : Source) :
    ((s.detachAll as).table src).next = (s.table src).next := by
  induction as generalizing s with
  | nil => rfl
  | cons a rest ih => rw [detachAll, ih, next_detach]

/-- Detaching listeners drops exactly the entries they name, and keeps the others in order. -/
theorem entries_detachAll (s : Session) (as : List Attachment) (src : Source) (ev : String) :
    ((s.detachAll as).table src).entries ev =
      ((s.table src).entries ev).filter
        fun e => decide (∀ a ∈ as, ¬(a.source = src ∧ a.event = ev ∧ a.id = e.1)) := by
  induction as generalizing s with
  | nil =>
    simp only [detachAll, List.not_mem_nil, false_implies, implies_true, decide_true]
    exact (List.filter_eq_self.2 fun _ _ => rfl).symm
  | cons a rest ih =>
    rw [detachAll, ih, entries_detach]
    split
    · rename_i h
      rw [List.filter_filter]
      apply List.filter_congr
      intro e _
      simp only [List.mem_cons, forall_eq_or_imp]
      grind
    · rename_i h
      apply List.filter_congr
      intro e _
      simp only [List.mem_cons, forall_eq_or_imp]
      grind

@[simp] theorem live_closeBinding (s : Session) (b : Nat) : (s.closeBinding b).live = s.live := by
  unfold closeBinding
  dsimp only
  split <;> simp

@[simp] theorem size_closeBinding (s : Session) (b : Nat) :
    (s.closeBinding b).bindings.size = s.bindings.size := by
  unfold closeBinding
  dsimp only
  split <;> simp

theorem closeBinding_of_closed {s : Session} {b : Nat} (h : (s.binding b).closed = true) :
    s.closeBinding b = s := by
  simp [closeBinding, h]

/-- Closing an open binding marks it closed and forgets its listeners. -/
theorem binding_closeBinding {s : Session} {b : Nat} (hb : (s.binding b).closed = false)
    (b' : Nat) :
    (s.closeBinding b).binding b' =
      if b' = b ∧ b < s.bindings.size then
        { s.binding b with closed := true, attachments := [] }
      else s.binding b' := by
  simp only [closeBinding, hb, Bool.false_eq_true, if_false]
  show ((s.detachAll (s.binding b).attachments).bindings.setIfInBounds b _).getD b' default = _
  rw [binding_setIfInBounds]
  simp [binding]

/-- Closing an open binding detaches exactly the listeners it lists. -/
theorem entries_closeBinding {s : Session} {b : Nat} (hb : (s.binding b).closed = false)
    (src : Source) (ev : String) :
    ((s.closeBinding b).table src).entries ev =
      ((s.table src).entries ev).filter fun e =>
        decide (∀ a ∈ (s.binding b).attachments, ¬(a.source = src ∧ a.event = ev ∧ a.id = e.1)) := by
  simp only [closeBinding, hb, Bool.false_eq_true, if_false]
  exact entries_detachAll s _ src ev

theorem next_closeBinding (s : Session) (b : Nat) (src : Source) :
    ((s.closeBinding b).table src).next = (s.table src).next := by
  unfold closeBinding
  dsimp only
  split
  · rfl
  · exact next_detachAll s _ src

@[simp] theorem counts_closeBinding (s : Session) (b b' : Nat) :
    ((s.closeBinding b).binding b').counts = (s.binding b').counts := by
  cases hb : (s.binding b).closed with
  | true => rw [closeBinding_of_closed hb]
  | false =>
    rw [binding_closeBinding hb]
    split
    · rename_i h
      rw [h.1]
    · rfl

/-- A closed binding stays closed. -/
theorem closed_closeBinding {s : Session} {b' : Nat} (h : (s.binding b').closed = true) (b : Nat) :
    ((s.closeBinding b).binding b').closed = true := by
  cases hb : (s.binding b).closed with
  | true => rw [closeBinding_of_closed hb, h]
  | false =>
    rw [binding_closeBinding hb]
    split
    · rfl
    · exact h

theorem closed_closeBinding_self {s : Session} {b : Nat} (hbs : b < s.bindings.size) :
    ((s.closeBinding b).binding b).closed = true := by
  cases hb : (s.binding b).closed with
  | true => rw [closeBinding_of_closed hb, hb]
  | false => simp [binding_closeBinding hb, hbs]

@[simp] theorem page_detachAll (s : Session) (as : List Attachment) :
    (s.detachAll as).page = s.page := by
  induction as generalizing s with
  | nil => rfl
  | cons a rest ih => simp [detachAll, ih]

@[simp] theorem size_handlers_detachAll (s : Session) (as : List Attachment) :
    (s.detachAll as).handlers.size = s.handlers.size := by
  induction as generalizing s with
  | nil => rfl
  | cons a rest ih => simp [detachAll, ih]

@[simp] theorem page_closeBinding (s : Session) (b : Nat) : (s.closeBinding b).page = s.page := by
  unfold closeBinding
  dsimp only
  split <;> simp

@[simp] theorem size_handlers_closeBinding (s : Session) (b : Nat) :
    (s.closeBinding b).handlers.size = s.handlers.size := by
  unfold closeBinding
  dsimp only
  split <;> simp

/-- Closing a binding a second time changes nothing. -/
theorem closeBinding_closeBinding (s : Session) (b : Nat) :
    (s.closeBinding b).closeBinding b = s.closeBinding b := by
  cases hb : (s.binding b).closed with
  | true => rw [closeBinding_of_closed hb, closeBinding_of_closed hb]
  | false =>
    by_cases hs : b < s.bindings.size
    · apply closeBinding_of_closed
      simp [binding_closeBinding hb, hs]
    · -- past the end there is nothing to close, and the session stays as it was
      have hnil : (s.binding b).attachments = [] := by
        simp [binding_of_size_le (Nat.le_of_not_lt hs)]
      have hsame : s.closeBinding b = s := by
        simp only [closeBinding, hb, Bool.false_eq_true, if_false, hnil]
        simp [detachAll, Array.setIfInBounds, hs]
      rw [hsame, hsame]

/-! ## Applying classes and other calls -/

@[simp] theorem size_applyClass (s : Session) (el b : Nat) (c : String) :
    (s.applyClass el b c).bindings.size = s.bindings.size := by
  apply applyClass_cases (P := fun t => t.bindings.size = s.bindings.size) <;> intros <;>
    simp [bindResponsive, bindHover, note]

@[simp] theorem page_size_applyClass (s : Session) (el b : Nat) (c : String) :
    (s.applyClass el b c).page.size = s.page.size := by
  apply applyClass_cases (P := fun t => t.page.size = s.page.size)
  · intros
    rfl
  · intro tok _
    obtain ⟨page, log, heq, hsize⟩ := s.applyStyle_eq el tok.type tok.value tok.unit
    simp only [count, heq]
    exact hsize
  · intros
    simp [bindResponsive, react_eq]
  · intros
    simp [bindHover]

/-- Events, resizes and extensions of the resolver leave the bindings, the kept list and the
elements' tables alone. -/
theorem frame_call {s : Session} {c : Call} (hc : c.keepsListeners) :
    (s.call c).bindings = s.bindings ∧ (s.call c).live = s.live ∧
      (s.call c).handlers = s.handlers := by
  cases c with
  | dispatch el ev => simp [call, dispatch_eq]
  | resize w => cases hw : s.window <;> simp [call, resize, hw, reactAll_eq]
  | use bps props =>
    obtain ⟨reg, log, heq⟩ := use_eq s bps props
    simp [call, heq]
  | _ => simp [Call.keepsListeners] at hc

/-! ## Declarations by selector -/

/-- A successful declaration applies the classes to each picked element in turn. -/
theorem makeStyle_ok {s s' : Session} {sel cs : String} {n : Nat}
    (h : s.makeStyle sel cs = .ok (s', n)) :
    ∃ els, s.page.query sel = .ok els ∧
      s' = els.foldl (fun acc el => (acc.applyMulti el cs).1) s := by
  unfold makeStyle at h
  split at h
  · cases h
  · rename_i els hq
    cases h
    exact ⟨els, hq, rfl⟩

/-- A property that logging and every successful `makeStyle` keep holds after a declaration. -/
theorem declareWith_induction {P : Session → Prop}
    (hnote : ∀ s level msg fs, P s → P (s.note level msg fs))
    (hmake : ∀ s sel cs s' n, P s → s.makeStyle sel cs = .ok (s', n) → P s')
    (fuel : Nat) (s : Session) (sel : String) (v : Config.Value) (hs : P s) :
    P (declareWith fuel s sel v).1 := by
  fun_induction declareWith fuel s sel v with
  | case1 t s sel classes s' n h => exact hmake s sel classes s' n hs h
  | case2 t s sel classes e h => exact hs
  | case3 fuel s sel members ih =>
    -- each member is declared on the session the earlier members left
    apply List.foldlRecOn (motive := fun acc : Session × List DeclareError => P acc.1) _ _ hs
    intro ⟨acc, errs⟩ hacc ⟨child, v⟩ _
    have h := ih acc child v hacc
    dsimp only
    revert h
    cases declareWith fuel acc (sel ++ " " ++ child) v
    exact id
  | case4 t s sel v _ _ => exact hnote _ _ _ _ hs

/-- A property that logging and every successful `makeStyle` keep holds after declarations. -/
theorem makeStyles_induction {P : Session → Prop}
    (hnote : ∀ s level msg fs, P s → P (s.note level msg fs))
    (hmake : ∀ s sel cs s' n, P s → s.makeStyle sel cs = .ok (s', n) → P s')
    (s : Session) (decls : List (List (String × Config.Value))) (hs : P s) :
    P (s.makeStyles decls).1 := by
  unfold makeStyles
  apply List.foldlRecOn (motive := fun acc : Session × List String × List DeclareError => P acc.1)
    _ _ hs
  intro ⟨acc, defined, errs⟩ hacc d _
  apply List.foldlRecOn (motive := fun acc : Session × List String × List DeclareError => P acc.1)
    _ _ hacc
  intro ⟨acc', defined', errs'⟩ hacc' ⟨sel, v⟩ _
  have h : P (acc'.declare sel v).1 := declareWith_induction hnote hmake _ acc' sel v hacc'
  dsimp only
  revert h
  cases acc'.declare sel v
  exact id
/-! ## The elements stay -/

@[simp] theorem page_close (s : Session) : s.close.page = s.page := by
  show (s.live.foldl (fun acc b => acc.closeBinding b) s).page = s.page
  apply List.foldlRecOn (motive := fun t : Session => t.page = s.page) _ _ rfl
  intro t ht b _
  rw [page_closeBinding, ht]

@[simp] theorem page_size_applyClasses (s : Session) (el : Nat) (cs : List String) :
    (s.applyClasses el cs).1.page.size = s.page.size := by
  rw [applyClasses_eq]
  -- the new binding leaves the page alone
  apply List.foldlRecOn (motive := fun t : Session => t.page.size = s.page.size) _ _
    (show s.newBinding.1.page.size = s.page.size from rfl)
  intro t ht c _
  rw [page_size_applyClass, ht]

/-- Applying classes makes one binding. -/
@[simp] theorem size_applyClasses (s : Session) (el : Nat) (cs : List String) :
    (s.applyClasses el cs).1.bindings.size = s.bindings.size + 1 := by
  rw [applyClasses_eq]
  apply List.foldlRecOn (motive := fun t : Session => t.bindings.size = s.bindings.size + 1) _ _
    (size_newBinding s)
  intro t ht c _
  rw [size_applyClass, ht]

@[simp] theorem size_close (s : Session) : s.close.bindings.size = s.bindings.size := by
  show (s.live.foldl (fun acc b => acc.closeBinding b) s).bindings.size = s.bindings.size
  apply List.foldlRecOn (motive := fun t : Session => t.bindings.size = s.bindings.size) _ _ rfl
  intro t ht b _
  rw [size_closeBinding, ht]

theorem page_size_makeStyle {s s' : Session} {sel cs : String} {n : Nat}
    (h : s.makeStyle sel cs = .ok (s', n)) : s'.page.size = s.page.size := by
  obtain ⟨els, -, rfl⟩ := makeStyle_ok h
  apply List.foldlRecOn (motive := fun t : Session => t.page.size = s.page.size) _ _ rfl
  intro t ht el _
  rw [applyMulti, page_size_applyClasses, ht]

/-- No call adds or removes elements. -/
@[simp] theorem page_size_call (s : Session) (c : Call) : (s.call c).page.size = s.page.size := by
  cases c with
  | apply el cn => exact page_size_applyClasses s el [cn]
  | applyMulti el cs => exact page_size_applyClasses s el _
  | applyElement el => exact page_size_applyClasses s el _
  | makeStyle sel cs =>
    exact call_makeStyle_cases (P := fun t => t.page.size = s.page.size) s sel cs
      (fun _ _ h => page_size_makeStyle h) rfl
  | makeStyles decls =>
    exact makeStyles_induction (P := fun t => t.page.size = s.page.size) (fun _ _ _ _ h => h)
      (fun _ _ _ _ _ ht h => (page_size_makeStyle h).trans ht) s decls rfl
  | dispatch el ev => simp [call, dispatch_eq]
  | resize w => simp [call, resize_page]
  | closeBinding b => simp [call]
  | close => simp [call]
  | use bps props =>
    obtain ⟨reg, log, heq⟩ := use_eq s bps props
    simp [call, heq]

theorem page_size_run (s : Session) (calls : List Call) : (s.run calls).page.size = s.page.size := by
  induction calls generalizing s with
  | nil => rfl
  | cons c rest ih => rw [run_cons, ih, page_size_call]

end Session

end UtilityStyles
