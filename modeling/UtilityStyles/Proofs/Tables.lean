import UtilityStyles.Proofs.Reactions
/-!
# Listener tables of a session

A session keeps its listeners in tables: one for the window, one for each element. This module
reads a table's entries after listeners are added and removed, and splits a binding's listening
into placing the listener in its table (`Session.attach`) and the binding's bookkeeping
(`Session.enlist`), which removes the listener again when the binding is closed.

## Main statements

* `Listeners.entries_add`, `Listeners.entries_remove` : one table.
* `Session.listen_eq` : listening is attaching, then enlisting.
* `Session.entries_attach`, `Session.entries_detach` : the session's tables.
-/

namespace UtilityStyles

namespace Listeners

variable {α : Type}

theorem entries_eq_keyedValue (t : Listeners α) (ev : String) :
    t.entries ev = keyedValue t.byEvent ev [] :=
  rfl

theorem entries_putEntries (t : Listeners α) (ev ev' : String) (es : List (Nat × α)) :
    (t.putEntries ev es).entries ev' = if ev' = ev then es else t.entries ev' := by
  rw [entries_eq_keyedValue, entries_eq_keyedValue]
  unfold putEntries
  split
  · rename_i h
    rw [keyedValue_map (k := ev) (v := es) (fun e he => by simp [he]) (fun e he => by simp [he])]
    simp [h]
  · rename_i h
    exact keyedValue_append_new es ev' [] h

@[simp] theorem entries_empty (ev : String) : (empty : Listeners α).entries ev = [] :=
  rfl

@[simp] theorem forEvent_empty (ev : String) : (empty : Listeners α).forEvent ev = [] :=
  rfl

/-- Adding a listener appends it, under the next number, to the entries of its event. -/
theorem entries_add (t : Listeners α) (ev : String) (a : α) (ev' : String) :
    (t.add ev a).1.entries ev' =
      if ev' = ev then t.entries ev ++ [(t.next + 1, a)] else t.entries ev' := by
  simp only [add]
  exact entries_putEntries t ev ev' _

@[simp] theorem add_snd (t : Listeners α) (ev : String) (a : α) : (t.add ev a).2 = t.next + 1 :=
  rfl

@[simp] theorem next_add (t : Listeners α) (ev : String) (a : α) :
    (t.add ev a).1.next = t.next + 1 :=
  rfl

/-- Removing a number drops the entries of its event with that number. -/
theorem entries_remove (t : Listeners α) (ev : String) (id : Nat) (ev' : String) :
    (t.remove ev id).entries ev' =
      if ev' = ev then (t.entries ev).filter (·.1 != id) else t.entries ev' :=
  entries_putEntries t ev ev' _

@[simp] theorem next_remove (t : Listeners α) (ev : String) (id : Nat) :
    (t.remove ev id).next = t.next := by
  simp only [remove, putEntries]
  split <;> rfl

theorem forEvent_eq (t : Listeners α) (ev : String) : t.forEvent ev = (t.entries ev).map (·.2) :=
  rfl

end Listeners

namespace Session

/-- The listener table of a source: the window's (empty without a window) or an element's. -/
def table (s : Session) : Source → Listeners Reaction
  | .window => (s.window.map (·.listeners)).getD Listeners.empty
  | .element el => s.handlersOf el

/-- Whether a source has a table to attach to: the window when there is one, or an element of
the page. -/
def hasTable (s : Session) : Source → Bool
  | .window => s.window.isSome
  | .element el => el < s.handlers.size

/-- Places a listener in the table of its source, when there is one; returns its number. -/
def attach (s : Session) (source : Source) (event : String) (r : Reaction) : Session × Nat :=
  match source with
  | .window =>
    match s.window with
    | some w =>
      let (t, id) := w.listeners.add event r
      ({ s with window := some { w with listeners := t } }, id)
    | none => (s, 0)
  | .element el =>
    let (t, id) := (s.handlersOf el).add event r
    ({ s with handlers := s.handlers.setIfInBounds el t }, id)

/-- A binding's bookkeeping for a listener placed for it: a closed binding removes it again; an
open one holds it, and the session keeps the binding from its first listener on. -/
def enlist (s : Session) (b : Nat) (a : Attachment) : Session :=
  let bd := s.binding b
  if bd.closed then s.detach a
  else
    { s with live := if bd.attachments.isEmpty then s.live ++ [b] else s.live,
             bindings := s.bindings.setIfInBounds b { bd with attachments := bd.attachments ++ [a] } }

theorem listen_eq (s : Session) (b : Nat) (src : Source) (ev : String) (r : Reaction) :
    s.listen b src ev r = (s.attach src ev r).1.enlist b ⟨src, ev, (s.attach src ev r).2⟩ := by
  cases src with
  | window => cases s.window <;> rfl
  | element el => rfl

theorem table_window_of_eq {s : Session} {w : Window} (h : s.window = some w) :
    s.table .window = w.listeners := by
  simp [table, h]

theorem handlersOf_setIfInBounds (s : Session) (el : Nat) (t : Listeners Reaction) (el' : Nat) :
    (s.handlers.setIfInBounds el t).getD el' Listeners.empty =
      if el' = el ∧ el < s.handlers.size then t else s.handlersOf el' := by
  simp only [handlersOf, Array.getD_eq_getD_getElem?, Array.getElem?_setIfInBounds]
  by_cases h : el = el'
  · subst h
    by_cases hs : el < s.handlers.size
    · simp [hs]
    · simp [hs]
  · simp [h, Ne.symm h]

theorem handlersOf_modify (s : Session) (el : Nat) (f : Listeners Reaction → Listeners Reaction)
    (el' : Nat) :
    (s.handlers.modify el f).getD el' Listeners.empty =
      if el' = el ∧ el < s.handlers.size then f (s.handlersOf el) else s.handlersOf el' := by
  simp only [handlersOf, Array.getD_eq_getD_getElem?, Array.getElem?_modify]
  by_cases h : el = el'
  · subst h
    by_cases hs : el < s.handlers.size
    · simp [hs]
    · simp [hs]
  · simp [h, Ne.symm h]

/-- Attaching a listener appends it to the entries of its source and event, under the table's
next number, when the source has a table. -/
theorem entries_attach (s : Session) (src : Source) (ev : String) (r : Reaction) (src' : Source)
    (ev' : String) :
    ((s.attach src ev r).1.table src').entries ev' =
      if src' = src ∧ ev' = ev ∧ s.hasTable src then
        (s.table src).entries ev ++ [((s.table src).next + 1, r)]
      else (s.table src').entries ev' := by
  cases src with
  | window =>
    cases hw : s.window with
    | none => simp [attach, hw, hasTable]
    | some w =>
      cases src' with
      | window => simp [attach, hw, table, hasTable, Listeners.entries_add]
      | element el' => simp [attach, hw, table, handlersOf]
  | element el =>
    cases src' with
    | window => simp [attach, table]
    | element el' =>
      simp only [attach, table, handlersOf, handlersOf_setIfInBounds, hasTable]
      by_cases he : el' = el
      · subst he
        by_cases hs : el' < s.handlers.size
        · simp [hs, Listeners.entries_add]
        · simp [hs]
      · simp [he]

theorem attach_snd (s : Session) (src : Source) (ev : String) (r : Reaction)
    (h : s.hasTable src) : (s.attach src ev r).2 = (s.table src).next + 1 := by
  cases src with
  | window =>
    cases hw : s.window with
    | none => simp [hasTable, hw] at h
    | some w => simp [attach, hw, table]
  | element el => rfl

/-- Detaching a listener drops its number from the entries of its source and event. -/
theorem entries_detach (s : Session) (a : Attachment) (src' : Source) (ev' : String) :
    ((s.detach a).table src').entries ev' =
      if src' = a.source ∧ ev' = a.event then ((s.table src').entries ev').filter (·.1 != a.id)
      else (s.table src').entries ev' := by
  obtain ⟨src, ev, id⟩ := a
  cases src with
  | window =>
    cases src' with
    | window =>
      cases hw : s.window with
      | none => simp [detach, hw, table]
      | some w =>
        simp [detach, hw, table, Listeners.entries_remove]
        grind
    | element el' => simp [detach, table, handlersOf]
  | element el =>
    cases src' with
    | window => simp [detach, table]
    | element el' =>
      simp only [detach, table, handlersOf, handlersOf_modify]
      by_cases he : el' = el
      · subst he
        by_cases hs : el' < s.handlers.size
        · simp [hs, Listeners.entries_remove]
          grind
        · simp [hs, Array.getD_eq_getD_getElem?]
      · simp [he]

@[simp] theorem page_attach (s : Session) (src : Source) (ev : String) (r : Reaction) :
    (s.attach src ev r).1.page = s.page := by
  cases src with
  | window => cases hw : s.window <;> simp [attach, hw]
  | element el => rfl

@[simp] theorem page_detach (s : Session) (a : Attachment) : (s.detach a).page = s.page := by
  unfold detach
  split <;> rfl

@[simp] theorem page_enlist (s : Session) (b : Nat) (a : Attachment) :
    (s.enlist b a).page = s.page := by
  unfold enlist
  dsimp only
  split
  · exact page_detach s a
  · rfl

@[simp] theorem page_listen (s : Session) (b : Nat) (src : Source) (ev : String) (r : Reaction) :
    (s.listen b src ev r).page = s.page := by
  simp [listen_eq]

end Session

end UtilityStyles
