import UtilityStyles.Proofs.Tables
import UtilityStyles.Resolver.Declare
/-!
# Runs of calls on a session

The calls a page's script makes on a session (applying classes, declaring styles, firing events,
resizing the window, closing bindings and the session, extending the resolver) and runs of them.

Applying one class is split by its mode (`Session.applyClass_cases`): an inert class only logs,
an immediate one writes, a responsive or hover one binds; then the class is counted. None of
these changes the registry, the breakpoints or the window's width (`Session.context`).

## Main definitions

* `Session.Call`, `Session.call`, `Session.run`.
* `Session.count` : the counting step of applying a class.

## Main statements

* `Session.applyClass_cases` : what applying one class can do.
* `Session.context_applyClasses` : applying classes keeps the context.
-/

namespace UtilityStyles

open UtilityStyles.Class (parseClass)

namespace Session

/-- A call on a session. -/
inductive Call where
  | apply (el : Nat) (className : String)
  | applyMulti (el : Nat) (classes : String)
  | applyElement (el : Nat)
  | makeStyle (selector classes : String)
  | makeStyles (decls : List (List (String × Config.Value)))
  | dispatch (el : Nat) (event : String)
  | resize (width : Float)
  | closeBinding (b : Nat)
  | close
  | use (breakpoints : List Breakpoint) (props : List (List (String × Config.Value)))

/-- Whether a call applies classes to one element. -/
def Call.applies : Call → Bool
  | .apply .. | .applyMulti .. | .applyElement .. => true
  | _ => false

/-- The session after a call; a refused style declaration leaves it as it was. -/
def call (s : Session) : Call → Session
  | .apply el c => (s.apply el c).1
  | .applyMulti el cs => (s.applyMulti el cs).1
  | .applyElement el => (s.applyElement el).1
  | .makeStyle sel cs =>
    match s.makeStyle sel cs with
    | .ok (s', _) => s'
    | .error _ => s
  | .makeStyles decls => (s.makeStyles decls).1
  | .dispatch el ev => (s.dispatch el ev).1
  | .resize w => (s.resize w).1
  | .closeBinding b => s.closeBinding b
  | .close => s.close
  | .use bps props => s.use bps props

/-- A style declaration leaves the session it made, or the session as it was when refused. -/
theorem call_makeStyle_cases {P : Session → Prop} (s : Session) (sel cs : String)
    (hok : ∀ s' n, s.makeStyle sel cs = .ok (s', n) → P s') (herr : P s) :
    P (s.call (.makeStyle sel cs)) := by
  simp only [call]
  split
  · exact hok _ _ ‹_›
  · exact herr

/-- The session after calls made in order. -/
def run (s : Session) (calls : List Call) : Session :=
  calls.foldl call s

@[simp] theorem run_nil (s : Session) : s.run [] = s :=
  rfl

@[simp] theorem run_cons (s : Session) (c : Call) (calls : List Call) :
    s.run (c :: calls) = (s.call c).run calls :=
  rfl

theorem run_append (s : Session) (calls calls' : List Call) :
    s.run (calls ++ calls') = (s.run calls).run calls' := by
  simp [run, List.foldl_append]

/-- Calls that only write to the page, each making writes that the calls of the run do not
change, run in a row as one run of all their writes. -/
theorem run_page_of_writes {α : Type} (mk : α → Call)
    (writes : Session → α → List (Nat × List (String × String)))
    (hpage : ∀ (s : Session) x, (s.call (mk x)).page = s.page.setEach (writes s x))
    (hkeep : ∀ (s : Session) x, writes (s.call (mk x)) = writes s) (s : Session) (xs : List α) :
    (s.run (xs.map mk)).page = s.page.setEach (xs.flatMap (writes s)) := by
  induction xs generalizing s with
  | nil => rfl
  | cons x rest ih =>
    rw [List.map_cons, run_cons, ih, hpage, hkeep, List.flatMap_cons, Page.setEach_append]

/-- The counting step of applying a class: the binding counts one more class of the mode. -/
def count (s : Session) (b : Nat) (mode : Mode) : Session :=
  let bd := s.binding b
  { s with bindings := s.bindings.setIfInBounds b { bd with counts := bd.counts.record mode } }

/-- Applying one class logs and counts it as inert, writes it at once, or binds it as a
responsive or a hover class, and counts it in its mode. -/
theorem applyClass_cases {P : Session → Prop} (s : Session) (el b : Nat) (c : String)
    (hinert : ∀ msg fs, P ((s.note .debug msg fs).count b .inert))
    (himm : ∀ tok, s.modeOf tok = .immediate →
      P ((s.applyStyle el tok.type tok.value tok.unit).1.count b .immediate))
    (hresp : ∀ tok, s.modeOf tok = .responsive → P ((s.bindResponsive el tok b).count b .responsive))
    (hhover : ∀ tok, s.modeOf tok = .hover → P ((s.bindHover el tok b).count b .hover)) :
    P (s.applyClass el b c) := by
  unfold applyClass
  split
  rename_i s' mode h
  show P (s'.count b mode)
  split at h
  · obtain ⟨rfl, rfl⟩ := Prod.mk.inj h
    exact hinert _ _
  · rename_i tok _
    split at h <;> rename_i hm <;> obtain ⟨rfl, rfl⟩ := Prod.mk.inj h
    · exact himm tok hm
    · exact hresp tok hm
    · exact hhover tok hm
    · exact hinert _ _

theorem applyClass_of_none {s : Session} {el b : Nat} {c : String} (hc : parseClass c = none) :
    s.applyClass el b c = (s.note .debug "class does not match" [("class", .text c)]).count b .inert := by
  unfold applyClass
  rw [hc]
  rfl

theorem applyClass_of_inert {s : Session} {el b : Nat} {c : String} {tok : Token}
    (hc : parseClass c = some tok) (hm : s.modeOf tok = .inert) :
    s.applyClass el b c = (s.note .debug "inert class"
      [("class", .text c), ("prefix", .text tok.prefixName)]).count b .inert := by
  unfold applyClass
  rw [hc]
  simp only [hm]
  rfl

theorem applyClass_of_hover {s : Session} {el b : Nat} {c : String} {tok : Token}
    (hc : parseClass c = some tok) (hm : s.modeOf tok = .hover) :
    s.applyClass el b c = (s.bindHover el tok b).count b .hover := by
  unfold applyClass
  rw [hc]
  simp only [hm]
  rfl

theorem applyClass_of_immediate {s : Session} {el b : Nat} {c : String} {tok : Token}
    (hc : parseClass c = some tok) (hm : s.modeOf tok = .immediate) :
    s.applyClass el b c = (s.applyStyle el tok.type tok.value tok.unit).1.count b .immediate := by
  unfold applyClass
  rw [hc]
  simp only [hm]
  rfl

theorem applyClass_of_responsive {s : Session} {el b : Nat} {c : String} {tok : Token}
    (hc : parseClass c = some tok) (hm : s.modeOf tok = .responsive) :
    s.applyClass el b c = (s.bindResponsive el tok b).count b .responsive := by
  unfold applyClass
  rw [hc]
  simp only [hm]
  rfl

theorem applyClasses_eq (s : Session) (el : Nat) (cs : List String) :
    s.applyClasses el cs =
      (cs.foldl (fun acc c => acc.applyClass el s.bindings.size c) s.newBinding.1,
        s.bindings.size) :=
  rfl

/-! ## The context stays -/

@[simp] theorem context_note (s : Session) (level : LogLevel) (msg : String)
    (fs : List (String × LogValue)) : (s.note level msg fs).context = s.context :=
  rfl

@[simp] theorem context_count (s : Session) (b : Nat) (mode : Mode) :
    (s.count b mode).context = s.context :=
  rfl

@[simp] theorem context_applyStyle (s : Session) (el : Nat) (type value unit : String) :
    (s.applyStyle el type value unit).1.context = s.context := by
  unfold applyStyle
  dsimp only
  split <;> rfl

@[simp] theorem context_react (s : Session) (r : Reaction) : (s.react r).context = s.context := by
  rw [react_eq]
  rfl

@[simp] theorem context_attach (s : Session) (src : Source) (ev : String) (r : Reaction) :
    (s.attach src ev r).1.context = s.context := by
  cases src with
  | window => cases hw : s.window <;> simp [attach, hw, context]
  | element el => rfl

@[simp] theorem context_detach (s : Session) (a : Attachment) : (s.detach a).context = s.context := by
  unfold detach
  split <;> simp [context, Option.map_map, Function.comp_def]

@[simp] theorem context_enlist (s : Session) (b : Nat) (a : Attachment) :
    (s.enlist b a).context = s.context := by
  unfold enlist
  dsimp only
  split
  · exact context_detach s a
  · rfl

@[simp] theorem context_listen (s : Session) (b : Nat) (src : Source) (ev : String) (r : Reaction) :
    (s.listen b src ev r).context = s.context := by
  simp [listen_eq]

@[simp] theorem table_count (s : Session) (b : Nat) (mode : Mode) :
    (s.count b mode).table = s.table :=
  rfl

@[simp] theorem table_applyStyle (s : Session) (el : Nat) (type value unit : String) :
    (s.applyStyle el type value unit).1.table = s.table := by
  unfold applyStyle
  dsimp only
  split <;> rfl

/-- Extending the resolver changes the registry, the breakpoints and the log, and nothing else. -/
theorem use_eq (s : Session) (bps : List Breakpoint) (props : List (List (String × Config.Value))) :
    ∃ reg log, s.use bps props =
      { s with registry := reg, breakpoints := s.breakpoints.append bps, log := log } := by
  -- each refused definition only logs
  have hnotes : ∀ (t : Session) (errs : List DefinitionError), ∃ log,
      errs.foldl (fun a e => a.note .warn "skipping property definition"
        [("error", .text e.message)]) t = { t with log := log } := by
    intro t errs
    induction errs generalizing t with
    | nil => exact ⟨t.log, rfl⟩
    | cons e rest ih =>
      obtain ⟨log, hlog⟩ := ih (t.note .warn "skipping property definition"
        [("error", .text e.message)])
      exact ⟨log, hlog⟩
  unfold use
  -- the fold keeps every part but the registry and the log of the session it starts from
  suffices h : ∀ (t : Session) (ps : List (List (String × Config.Value))),
      (∃ reg log, t =
        { s with registry := reg, breakpoints := s.breakpoints.append bps, log := log }) →
      ∃ reg log, ps.foldl (fun acc p =>
          (acc.registry.defineAll p).2.foldl (fun a e => a.note .warn "skipping property definition"
            [("error", .text e.message)]) { acc with registry := (acc.registry.defineAll p).1 }) t =
        { s with registry := reg, breakpoints := s.breakpoints.append bps, log := log } from
    h _ props ⟨s.registry, s.log, rfl⟩
  intro t ps ht
  induction ps generalizing t with
  | nil => exact ht
  | cons p rest ih =>
    apply ih
    obtain ⟨reg, log, rfl⟩ := ht
    obtain ⟨log', hlog⟩ := hnotes
      { s with registry := (reg.defineAll p).1, breakpoints := s.breakpoints.append bps, log := log }
      (reg.defineAll p).2
    exact ⟨(reg.defineAll p).1, log', hlog⟩

theorem context_applyClass (s : Session) (el b : Nat) (c : String) :
    (s.applyClass el b c).context = s.context := by
  apply applyClass_cases (P := fun t => t.context = s.context) <;> intros <;>
    simp [bindResponsive, bindHover]

theorem context_applyClasses (s : Session) (el : Nat) (cs : List String) :
    (s.applyClasses el cs).1.context = s.context := by
  rw [applyClasses_eq]
  -- the fold keeps the context of the session with the new binding, which is `s`'s
  suffices h : ∀ (t : Session), (cs.foldl (fun acc c => acc.applyClass el s.bindings.size c) t).context
      = t.context by
    rw [h]
    rfl
  intro t
  induction cs generalizing t with
  | nil => rfl
  | cons c rest ih => simp [ih, context_applyClass]

end Session

end UtilityStyles
