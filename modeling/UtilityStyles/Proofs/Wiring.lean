import UtilityStyles.Proofs.Calls
/-!
# How applying classes wires listeners

Applying classes attaches listeners in a fixed shape (`Session.Wired`). Every `resize` listener
of the window evaluates a responsive class against the baseline the class took when it was bound,
and that baseline holds exactly the properties of the class's type. The `mouseover` and
`mouseout` listeners of an element are the two halves of its hover classes, in the same order:
the class's declarations on `mouseover`, its baseline on `mouseout`.

The shape holds from the start of a session and after every call that applies classes.

## Main statements

* `Session.Wired` : the shape of the listeners.
* `Session.Wired.run` : applying classes keeps it.
-/

namespace UtilityStyles

theorem Array.getD_setIfInBounds {α : Type} (xs : Array α) (i : Nat) (a d : α) (j : Nat) :
    (xs.setIfInBounds i a).getD j d = if j = i ∧ i < xs.size then a else xs.getD j d := by
  simp only [Array.getD_eq_getD_getElem?, Array.getElem?_setIfInBounds]
  by_cases h : i = j
  · subst h
    by_cases hs : i < xs.size <;> simp [hs]
  · simp [h, Ne.symm h]

namespace Session

/-- The listeners a session's classes attached have their fixed shape: `resize` listeners
evaluate responsive classes against baselines of their types' properties, and each element's
`mouseover` and `mouseout` listeners are the two halves of its hover classes, in order. -/
structure Wired (s : Session) : Prop where
  resize : ∀ r ∈ (s.table .window).forEvent "resize",
    ∃ el tok base, r = .evaluate el tok base ∧ base.map Prod.fst = s.context.properties tok.type
  hover : ∀ el, ∃ hs : List (Nat × Token × List (String × String)),
    (s.table (.element el)).forEvent "mouseover" = hs.map (fun h => .write h.1 h.2.1 h.2.2) ∧
    (s.table (.element el)).forEvent "mouseout" = hs.map (fun h => .restore h.1 h.2.2) ∧
    ∀ h ∈ hs, h.2.2.map Prod.fst = s.context.properties h.2.1.type

theorem Wired.of_forEvent {s t : Session} (hs : s.Wired) (hctx : t.context = s.context)
    (htab : ∀ src ev, (t.table src).forEvent ev = (s.table src).forEvent ev) : t.Wired where
  resize r hr := by
    rw [htab] at hr
    rw [hctx]
    exact hs.resize r hr
  hover el := by
    rw [htab, htab, hctx]
    exact hs.hover el

theorem wired_start (reg : Registry) (bps : BreakpointTable) (width : Option Float) (page : Page) :
    (start reg bps width page).Wired where
  resize r hr := by
    cases width <;> simp [start, table, Listeners.forEvent] at hr
  hover el := ⟨[], by
    simp only [start, table, handlersOf, Listeners.forEvent, Array.getD_eq_getD_getElem?,
      Array.getElem?_replicate]
    split <;> simp⟩

/-! ## Binding flags -/

@[simp] theorem bindings_applyStyle (s : Session) (el : Nat) (type value unit : String) :
    (s.applyStyle el type value unit).1.bindings = s.bindings := by
  unfold applyStyle
  dsimp only
  split <;> rfl

@[simp] theorem bindings_react (s : Session) (r : Reaction) : (s.react r).bindings = s.bindings := by
  rw [react_eq]

@[simp] theorem bindings_attach (s : Session) (src : Source) (ev : String) (r : Reaction) :
    (s.attach src ev r).1.bindings = s.bindings := by
  cases src with
  | window => cases hw : s.window <;> simp [attach, hw]
  | element el => rfl

@[simp] theorem bindings_detach (s : Session) (a : Attachment) : (s.detach a).bindings = s.bindings := by
  unfold detach
  split <;> rfl

theorem binding_setIfInBounds (s : Session) (b : Nat) (bd : Binding) (b' : Nat) :
    (s.bindings.setIfInBounds b bd).getD b' default =
      if b' = b ∧ b < s.bindings.size then bd else s.binding b' :=
  Array.getD_setIfInBounds _ _ _ _ _

theorem closed_enlist (s : Session) (b : Nat) (a : Attachment) (b' : Nat) :
    ((s.enlist b a).binding b').closed = (s.binding b').closed := by
  unfold enlist
  dsimp only
  split
  · simp [binding]
  · simp only [binding, binding_setIfInBounds]
    split <;> simp_all

theorem closed_count (s : Session) (b : Nat) (mode : Mode) (b' : Nat) :
    ((s.count b mode).binding b').closed = (s.binding b').closed := by
  simp only [count, binding, binding_setIfInBounds]
  split <;> simp_all

theorem closed_listen (s : Session) (b : Nat) (src : Source) (ev : String) (r : Reaction)
    (b' : Nat) : ((s.listen b src ev r).binding b').closed = (s.binding b').closed := by
  rw [listen_eq, closed_enlist]
  simp [binding]

/-- Applying a class opens or closes no binding. -/
theorem closed_applyClass (s : Session) (el b : Nat) (c : String) (b' : Nat) :
    ((s.applyClass el b c).binding b').closed = (s.binding b').closed := by
  apply applyClass_cases (P := fun t => (t.binding b').closed = (s.binding b').closed)
  · intro msg fs
    rw [closed_count]
    rfl
  · intro tok _
    rw [closed_count]
    simp [binding]
  · intro tok _
    rw [closed_count, Session.bindResponsive, closed_listen]
    simp [binding]
  · intro tok _
    rw [closed_count, Session.bindHover, closed_listen, closed_listen]

/-! ## Attaching keeps the shape -/

@[simp] theorem snapshot_keys (s : Session) (el : Nat) (props : List String) :
    (s.snapshot el props).map Prod.fst = props := by
  simp [snapshot, Function.comp_def]

theorem forEvent_attach (s : Session) (src : Source) (ev : String) (r : Reaction) (src' : Source)
    (ev' : String) :
    ((s.attach src ev r).1.table src').forEvent ev' =
      if src' = src ∧ ev' = ev ∧ s.hasTable src then (s.table src).forEvent ev ++ [r]
      else (s.table src').forEvent ev' := by
  simp only [Listeners.forEvent_eq, entries_attach]
  split <;> simp

theorem hasTable_attach (s : Session) (src : Source) (ev : String) (r : Reaction) (src' : Source) :
    (s.attach src ev r).1.hasTable src' = s.hasTable src' := by
  cases src with
  | window => cases hw : s.window <;> cases src' <;> simp [attach, hw, hasTable]
  | element el => cases src' <;> simp [attach, hasTable]

theorem table_enlist_of_open {s : Session} {b : Nat} (h : (s.binding b).closed = false)
    (a : Attachment) : (s.enlist b a).table = s.table := by
  funext src
  simp only [enlist, h, Bool.false_eq_true, if_false]
  cases src <;> rfl

theorem hasTable_enlist (s : Session) (b : Nat) (a : Attachment) (src : Source) :
    (s.enlist b a).hasTable src = s.hasTable src := by
  unfold enlist detach
  dsimp only
  split
  · split <;> cases src <;> simp [hasTable]
  · rfl

theorem hasTable_listen (s : Session) (b : Nat) (src : Source) (ev : String) (r : Reaction)
    (src' : Source) : (s.listen b src ev r).hasTable src' = s.hasTable src' := by
  rw [listen_eq, hasTable_enlist, hasTable_attach]

/-- For an open binding, listening appends the listener to its table, when the source has one. -/
theorem forEvent_listen_of_open {s : Session} {b : Nat} (h : (s.binding b).closed = false)
    (src : Source) (ev : String) (r : Reaction) (src' : Source) (ev' : String) :
    ((s.listen b src ev r).table src').forEvent ev' =
      if src' = src ∧ ev' = ev ∧ s.hasTable src then (s.table src).forEvent ev ++ [r]
      else (s.table src').forEvent ev' := by
  have h' : ((s.attach src ev r).1.binding b).closed = false := by simpa [binding] using h
  rw [listen_eq, table_enlist_of_open h', forEvent_attach]

theorem Wired.bindResponsive {s : Session} (hs : s.Wired) {b : Nat}
    (hb : (s.binding b).closed = false) (el : Nat) (tok : Token) : (s.bindResponsive el tok b).Wired := by
  let r : Reaction := .evaluate el tok (s.snapshot el (s.context.properties tok.type))
  have heq : s.bindResponsive el tok b = (s.react r).listen b .window "resize" r := rfl
  have hr : (s.react r).Wired := hs.of_forEvent (context_react s r) fun src ev => by
    rw [react_eq]
    rfl
  have hb' : ((s.react r).binding b).closed = false := by simpa [binding] using hb
  rw [heq]
  refine ⟨fun r' hr' => ?_, fun el' => ?_⟩
  · rw [forEvent_listen_of_open hb'] at hr'
    simp only [context_listen, context_react]
    split at hr'
    · rcases List.mem_append.1 hr' with h | h
      · simpa using hr.resize r' h
      · exact ⟨el, tok, _, List.mem_singleton.1 h, by simp⟩
    · simpa using hr.resize r' hr'
  · obtain ⟨hs', hover, out, hprops⟩ := hr.hover el'
    refine ⟨hs', ?_, ?_, by simpa using hprops⟩ <;>
      simp [forEvent_listen_of_open hb', hover, out]

theorem Wired.bindHover {s : Session} (hs : s.Wired) {b : Nat}
    (hb : (s.binding b).closed = false) (el : Nat) (tok : Token) : (s.bindHover el tok b).Wired := by
  let base := s.snapshot el (s.context.properties tok.type)
  let s₁ := s.listen b (.element el) "mouseover" (.write el tok base)
  have hb₁ : (s₁.binding b).closed = false := by rw [closed_listen]; exact hb
  have hctx : (s.bindHover el tok b).context = s.context := by simp [Session.bindHover]
  have htab : ∀ src ev, ((s.bindHover el tok b).table src).forEvent ev =
      ((s₁.listen b (.element el) "mouseout" (.restore el base)).table src).forEvent ev :=
    fun _ _ => rfl
  refine ⟨fun r hr => ?_, fun el' => ?_⟩
  · simp only [htab, forEvent_listen_of_open hb₁, forEvent_listen_of_open hb, s₁,
      reduceCtorEq, false_and, if_false] at hr
    rw [hctx]
    exact hs.resize r hr
  · obtain ⟨hs', hover, out, hprops⟩ := hs.hover el'
    rw [hctx]
    by_cases he : el' = el ∧ s.hasTable (.element el)
    · obtain ⟨rfl, hhas⟩ := he
      refine ⟨hs' ++ [(el', tok, base)], ?_, ?_, ?_⟩
      · simp [htab, forEvent_listen_of_open hb₁, forEvent_listen_of_open hb, s₁, hhas, hover]
      · simp [htab, forEvent_listen_of_open hb₁, forEvent_listen_of_open hb, s₁, hhas,
          hasTable_listen, out]
      · intro h hmem
        rcases List.mem_append.1 hmem with hmem | hmem
        · exact hprops h hmem
        · simp only [List.mem_singleton] at hmem
          subst hmem
          simp [base]
    · refine ⟨hs', ?_, ?_, hprops⟩
      · simp only [htab, forEvent_listen_of_open hb₁, forEvent_listen_of_open hb, s₁]
        simp only [Source.element.injEq] at he ⊢
        grind
      · simp only [htab, forEvent_listen_of_open hb₁, forEvent_listen_of_open hb, s₁,
          hasTable_listen]
        simp only [Source.element.injEq] at he ⊢
        grind

/-! ## Applying classes keeps the shape -/

theorem Wired.count {s : Session} (hs : s.Wired) (b : Nat) (mode : Mode) : (s.count b mode).Wired :=
  hs.of_forEvent rfl fun _ _ => rfl

theorem Wired.applyClass {s : Session} (hs : s.Wired) {b : Nat} (hb : (s.binding b).closed = false)
    (el : Nat) (c : String) : (s.applyClass el b c).Wired := by
  apply applyClass_cases (P := Wired)
  · intro msg fs
    exact (hs.of_forEvent (t := s.note .debug msg fs) rfl fun _ _ => rfl).count b _
  · intro tok _
    refine (hs.of_forEvent (context_applyStyle ..) fun src ev => ?_).count b _
    unfold applyStyle
    dsimp only
    split <;> rfl
  · intro tok _
    exact (hs.bindResponsive hb el tok).count b _
  · intro tok _
    exact (hs.bindHover hb el tok).count b _

/-- The binding that applying classes creates is open while its classes are applied. -/
theorem Wired.applyClasses {s : Session} (hs : s.Wired) (el : Nat) (cs : List String) :
    (s.applyClasses el cs).1.Wired := by
  rw [applyClasses_eq]
  have hnew : s.newBinding.1.Wired := hs.of_forEvent rfl fun _ _ => rfl
  have hopen : (s.newBinding.1.binding s.bindings.size).closed = false := by
    simp [newBinding, binding, Array.getD_eq_getD_getElem?]
  -- the fold keeps the shape and the new binding open
  suffices h : ∀ t : Session, t.Wired → (t.binding s.bindings.size).closed = false →
      (cs.foldl (fun acc c => acc.applyClass el s.bindings.size c) t).Wired from h _ hnew hopen
  induction cs with
  | nil => exact fun t ht _ => ht
  | cons c rest ih =>
    intro t ht hb
    exact ih _ (ht.applyClass hb el c) (by rw [closed_applyClass]; exact hb)

theorem Wired.call {s : Session} (hs : s.Wired) {c : Call} (hc : c.applies = true) :
    (s.call c).Wired := by
  cases c <;> simp [Call.applies] at hc <;> exact hs.applyClasses _ _

theorem context_call {s : Session} {c : Call} (hc : c.applies = true) : (s.call c).context = s.context := by
  cases c <;> simp [Call.applies] at hc <;> exact context_applyClasses _ _ _

/-- A run of calls that apply classes keeps the shape of the listeners and the context. -/
theorem Wired.run {s : Session} (hs : s.Wired) {calls : List Call}
    (hcalls : ∀ c ∈ calls, c.applies = true) :
    (s.run calls).Wired ∧ (s.run calls).context = s.context := by
  induction calls generalizing s with
  | nil => exact ⟨hs, rfl⟩
  | cons c rest ih =>
    obtain ⟨h1, h2⟩ := ih (hs.call (hcalls c (by simp))) (fun c' hc' => hcalls c' (by simp [hc']))
    exact ⟨h1, h2.trans (context_call (hcalls c (by simp)))⟩

end Session

end UtilityStyles
