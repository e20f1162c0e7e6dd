import Mathlib
import UtilityStyles.Proofs.Tables
/-!
# Listener tables as ordered sets of live listeners

A listener table gives each listener it adds the next number, and a remover takes a listener out
by the number it captured. Firing an event runs the event's listeners as they stand when it
fires, in the order they were added, and counts them. `Listeners.dispatch` is that firing for
any state that holds a table and any way of running a listener; the events of a session's
elements and the resizes of its window are instances of it.

To say what a table holds after any use, a client drives it (`Listeners.Client`): it adds
listeners, calls the removers its adds returned, in any order and as often as it likes, and
fires events whose listeners make edits of their own while the event runs. The client's history
of edits is the specification: a listener is live when it was added and its remover has not been
called since (`Listeners.Live`). The client's invariant (`Listeners.Client.Tracks`) says that the
entries of every event are exactly its live listeners, each once, in the order they were added.
Every edit keeps it, so every run does.

## Main definitions

* `Listeners.dispatch` : firing an event on the table a state holds.
* `Listeners.Edit`, `Listeners.Client`, `Listeners.Step` : a client of a table and its calls.
* `Listeners.Live`, `Listeners.LiveList` : the listeners live after a history.

## Main statements

* `Listeners.Client.Tracks.edit`, `Listeners.Client.tracks_after` : the invariant along any run.
* `Listeners.Client.Tracks.entries_remove` : a remover takes out its own listener only.
* `listeners_fire_live_listeners_in_order` : the table's behaviour over any run.
-/

namespace UtilityStyles

namespace Listeners

variable {α σ : Type}

/-- Fires an event on the listener table a state holds: runs the event's listeners as they stand
when it fires, in the order they were added, each on the state the one before left, and counts
them. What the listeners change in the table shows from the next firing on. -/
def dispatch (table : σ → Listeners α) (run : σ → α → σ) (s : σ) (event : String) : σ × Nat :=
  let rs := (table s).forEvent event
  (rs.foldl run s, rs.length)

/-! ## Removing a listener twice -/

/-- Writing the same entries of an event twice writes them once. -/
theorem putEntries_putEntries (t : Listeners α) (event : String) (es : List (Nat × α)) :
    (t.putEntries event es).putEntries event es = t.putEntries event es := by
  unfold putEntries
  by_cases h : t.byEvent.any (·.1 == event)
  · -- every pair of the event already holds `es`
    have hany : (t.byEvent.map fun p => if p.1 == event then (event, es) else p).any
        (·.1 == event) := by
      obtain ⟨p, hp, hpe⟩ := List.any_eq_true.1 h
      exact List.any_eq_true.2 ⟨(event, es), List.mem_map.2 ⟨p, hp, by simp [hpe]⟩, by simp⟩
    rw [if_pos h]
    dsimp only
    rw [if_pos hany, List.map_map]
    congr 2
    funext p
    by_cases hp : p.1 = event <;> simp [hp]
  · -- the event's pair was appended, and no other pair is the event's
    have hmap : (t.byEvent.map fun p => if p.1 == event then (event, es) else p) = t.byEvent := by
      refine (List.map_congr_left fun p hp => ?_).trans (List.map_id _)
      have hp' : (p.1 == event) = false := by
        simpa using fun he => h (List.any_eq_true.2 ⟨p, hp, by simp [he]⟩)
      simp [hp']
    have hany : (t.byEvent ++ [(event, es)]).any (·.1 == event) := by simp
    rw [if_neg h]
    dsimp only
    rw [if_pos hany, List.map_append, hmap]
    simp

/-- A remover called again removes nothing more. -/
theorem remove_remove (t : Listeners α) (event : String) (id : Nat) :
    (t.remove event id).remove event id = t.remove event id := by
  conv_lhs => rw [remove]
  rw [entries_remove, if_pos rfl, List.filter_filter]
  simp only [Bool.and_self]
  exact putEntries_putEntries t event _

/-! ## Histories of edits -/

/-- A call a client makes on a listener table: adding a listener for an event, or calling the
remover that its `n`-th add returned (counting from one). -/
inductive Edit (α : Type) where
  | add (event : String) (a : α)
  | remove (n : Nat)

/-- The event and listener an edit adds, if it adds one. -/
def Edit.added? : Edit α → Option (String × α)
  | .add event a => some (event, a)
  | .remove _ => none

/-- The listeners a history adds, with their events, in order. -/
def added (h : List (Edit α)) : List (String × α) :=
  h.filterMap Edit.added?

@[simp] theorem added_nil : added ([] : List (Edit α)) = [] :=
  rfl

@[simp] theorem added_append (h h' : List (Edit α)) : added (h ++ h') = added h ++ added h' :=
  List.filterMap_append

@[simp] theorem added_cons_add (event : String) (a : α) (h : List (Edit α)) :
    added (.add event a :: h) = (event, a) :: added h :=
  rfl

@[simp] theorem added_cons_remove (n : Nat) (h : List (Edit α)) :
    added (.remove n :: h) = added h :=
  rfl

/-- The `n`-th add of a history (counting from one) added `a` for `event`, and the remover it
returned has not been called since. -/
def Live (h : List (Edit α)) (n : Nat) (event : String) (a : α) : Prop :=
  ∃ h₁ h₂, h = h₁ ++ .add event a :: h₂ ∧ (added h₁).length + 1 = n ∧ Edit.remove n ∉ h₂

/-- A list of numbered listeners holds the live listeners of an event: each of them once, in the
order they were added. -/
structure LiveList (h : List (Edit α)) (event : String) (ls : List (Nat × α)) : Prop where
  sorted : ls.Pairwise fun p q => p.1 < q.1
  mem_iff : ∀ n a, (n, a) ∈ ls ↔ Live h n event a

section Live

variable {h : List (Edit α)} {n m : Nat} {event event' : String} {a a' : α}

theorem Live.pos (hl : Live h n event a) : 0 < n := by
  obtain ⟨h₁, h₂, -, hn, -⟩ := hl
  omega

/-- A live listener is the one its add placed. -/
theorem Live.getElem? (hl : Live h n event a) : (added h)[n - 1]? = some (event, a) := by
  obtain ⟨h₁, h₂, rfl, hn, -⟩ := hl
  rw [added_append, added_cons_add, List.getElem?_append_right (by omega)]
  simp [show n - 1 - (added h₁).length = 0 by omega]

theorem Live.le_length (hl : Live h n event a) : n ≤ (added h).length := by
  have h₁ := (List.getElem?_eq_some_iff.1 hl.getElem?).1
  have h₂ := hl.pos
  omega

/-- An add makes its listener live, under the next number, and changes no other. -/
theorem live_append_add : Live (h ++ [.add event a]) n event' a' ↔
    Live h n event' a' ∨ (n = (added h).length + 1 ∧ event' = event ∧ a' = a) := by
  constructor
  · rintro ⟨h₁, h₂, heq, hn, hrem⟩
    rcases List.eq_nil_or_concat' h₂ with rfl | ⟨h₂, x, rfl⟩
    · -- the add is the last edit
      obtain ⟨rfl, hx⟩ := List.append_inj' heq rfl
      simp only [List.cons.injEq, Edit.add.injEq, and_true] at hx
      exact .inr ⟨hn.symm, hx.1.symm, hx.2.symm⟩
    · -- the add came before, and the last edit is not its remover
      rw [← List.cons_append, ← List.append_assoc] at heq
      obtain ⟨rfl, -⟩ := List.append_inj' heq rfl
      exact .inl ⟨h₁, h₂, rfl, hn, fun hm => hrem (List.mem_append_left _ hm)⟩
  · rintro (⟨h₁, h₂, rfl, hn, hrem⟩ | ⟨rfl, rfl, rfl⟩)
    · exact ⟨h₁, h₂ ++ [.add event a], by simp, hn, by simpa using hrem⟩
    · exact ⟨h, [], rfl, rfl, List.not_mem_nil⟩

/-- A remover's call ends the life of its own listener and of no other. -/
theorem live_append_remove : Live (h ++ [.remove m]) n event a ↔ Live h n event a ∧ n ≠ m := by
  constructor
  · rintro ⟨h₁, h₂, heq, hn, hrem⟩
    rcases List.eq_nil_or_concat' h₂ with rfl | ⟨h₂, x, rfl⟩
    · obtain ⟨-, hx⟩ := List.append_inj' heq rfl
      simp at hx
    · rw [← List.cons_append, ← List.append_assoc] at heq
      obtain ⟨rfl, hx⟩ := List.append_inj' heq rfl
      simp only [List.cons.injEq, and_true] at hx
      subst hx
      refine ⟨⟨h₁, h₂, rfl, hn, fun hm => hrem (List.mem_append_left _ hm)⟩, ?_⟩
      rintro rfl
      exact hrem (List.mem_append_right _ (List.mem_singleton_self _))
  · rintro ⟨⟨h₁, h₂, rfl, hn, hrem⟩, hne⟩
    refine ⟨h₁, h₂ ++ [.remove m], by simp, hn, ?_⟩
    simp [hrem, hne]

end Live

/-! ## A client of a table -/

/-- A client of a listener table: the table, for each of its adds the event and number that the
returned remover captured, the edits made so far, and the listeners run so far. -/
structure Client (α : Type) where
  table : Listeners α
  removers : List (String × Nat)
  history : List (Edit α)
  ran : List α

/-- A client of an empty table that has done nothing. -/
def Client.empty : Client α :=
  ⟨Listeners.empty, [], [], []⟩

/-- The remover that the `n`-th add returned (counting from one), as the event and number it
captured. -/
def Client.remover (c : Client α) : Nat → Option (String × Nat)
  | 0 => none
  | n + 1 => c.removers[n]?

/-- Makes an edit. A remover takes out the listener it captured, if that is still there. -/
def Client.edit (c : Client α) : Edit α → Client α
  | .add event a =>
    { c with table := (c.table.add event a).1,
             removers := c.removers ++ [(event, (c.table.add event a).2)],
             history := c.history ++ [.add event a] }
  | .remove n =>
    { c with table := ((c.remover n).map fun r => c.table.remove r.1 r.2).getD c.table,
             history := c.history ++ [.remove n] }

/-- Runs a listener: records that it ran, then makes the edits it makes. What a listener does
may depend on the whole client as it stands when the listener runs. -/
def Client.run (body : Client α → α → List (Edit α)) (c : Client α) (a : α) : Client α :=
  (body c a).foldl Client.edit { c with ran := c.ran ++ [a] }

/-- Fires an event on the client's table; counts the listeners that ran. -/
def Client.fire (body : Client α → α → List (Edit α)) (c : Client α) (event : String) :
    Client α × Nat :=
  dispatch Client.table (Client.run body) c event

/-- What a client does: an edit, or firing an event. -/
inductive Step (α : Type) where
  | edit (x : Edit α)
  | fire (event : String)

/-- Takes a step. -/
def Client.step (body : Client α → α → List (Edit α)) (c : Client α) : Step α → Client α
  | .edit x => c.edit x
  | .fire event => (c.fire body event).1

/-- The client after steps taken from an empty table. -/
def Client.after (body : Client α → α → List (Edit α)) (steps : List (Step α)) : Client α :=
  steps.foldl (Client.step body) Client.empty

namespace Client

variable {c : Client α} {body : Client α → α → List (Edit α)}

/-! ### What runs and what is recorded -/

@[simp] theorem ran_edit (c : Client α) (x : Edit α) : (c.edit x).ran = c.ran := by
  cases x <;> rfl

@[simp] theorem history_edit (c : Client α) (x : Edit α) :
    (c.edit x).history = c.history ++ [x] := by
  cases x <;> rfl

theorem foldl_edit_ran (xs : List (Edit α)) (c : Client α) : (xs.foldl edit c).ran = c.ran := by
  induction xs generalizing c with
  | nil => rfl
  | cons x xs ih => rw [List.foldl_cons, ih, ran_edit]

theorem foldl_edit_history (xs : List (Edit α)) (c : Client α) :
    (xs.foldl edit c).history = c.history ++ xs := by
  induction xs generalizing c with
  | nil => simp
  | cons x xs ih => simp [ih]

@[simp] theorem ran_run (c : Client α) (a : α) : (c.run body a).ran = c.ran ++ [a] :=
  foldl_edit_ran _ _

@[simp] theorem history_run (c : Client α) (a : α) :
    (c.run body a).history = c.history ++ body c a :=
  foldl_edit_history _ _

theorem foldl_run_ran (rs : List α) (c : Client α) : (rs.foldl (run body) c).ran = c.ran ++ rs := by
  induction rs generalizing c with
  | nil => simp
  | cons r rs ih => simp [ih]

theorem foldl_run_history (rs : List α) (c : Client α) :
    c.history <+: (rs.foldl (run body) c).history := by
  induction rs generalizing c with
  | nil => exact List.prefix_refl _
  | cons r rs ih =>
    have hr : c.history <+: (c.run body r).history := by
      rw [history_run]
      exact List.prefix_append _ _
    exact hr.trans (ih _)

/-- Firing runs the entries of the event as they stood, each once and in order. -/
theorem ran_fire (c : Client α) (event : String) :
    (c.fire body event).1.ran = c.ran ++ (c.table.entries event).map (·.2) :=
  foldl_run_ran _ _

/-- The edits made while an event fires are added to the history. -/
theorem history_fire (c : Client α) (event : String) :
    c.history <+: (c.fire body event).1.history :=
  foldl_run_history _ _

theorem count_fire (c : Client α) (event : String) :
    (c.fire body event).2 = (c.table.entries event).length := by
  simp [fire, dispatch, forEvent]

/-! ### The invariant -/

/-- What a client's table and removers say about its history: the table's next number is the
number of adds, the `n`-th remover captured the `n`-th add's event and number `n`, and every
event's entries are its live listeners. -/
structure Tracks (c : Client α) : Prop where
  next : c.table.next = (added c.history).length
  removers : c.removers = ((added c.history).zipIdx 1).map fun p => (p.1.1, p.2)
  lists : ∀ event, LiveList c.history event (c.table.entries event)

theorem tracks_empty : (Client.empty : Client α).Tracks where
  next := rfl
  removers := rfl
  lists event :=
    ⟨List.Pairwise.nil, fun n a => by
      simp only [Client.empty, entries_empty, List.not_mem_nil, false_iff]
      rintro ⟨h₁, h₂, heq, -⟩
      simp at heq⟩

/-- The `n`-th remover captured the `n`-th add's event, and the number `n`. -/
theorem Tracks.remover_succ (hc : c.Tracks) (n : Nat) :
    c.remover (n + 1) = ((added c.history)[n]?).map fun p => (p.1, n + 1) := by
  simp only [remover, hc.removers, List.getElem?_map, List.getElem?_zipIdx, Option.map_map]
  congr 1
  funext p
  simp [Nat.add_comm]

/-- No entry carries a number that no add handed out. -/
theorem Tracks.le_next (hc : c.Tracks) {event : String} {p : Nat × α}
    (hp : p ∈ c.table.entries event) : 0 < p.1 ∧ p.1 ≤ c.table.next := by
  have hl := ((hc.lists event).mem_iff p.1 p.2).1 hp
  exact ⟨hl.pos, hc.next ▸ hl.le_length⟩

theorem Tracks.add (hc : c.Tracks) (event : String) (a : α) : (c.edit (.add event a)).Tracks where
  next := by simp [edit, hc.next]
  removers := by
    simp [edit, hc.removers, List.zipIdx_append, hc.next, Nat.add_comm]
  lists event' := by
    simp only [edit, entries_add]
    split
    · -- the new listener goes last, under a number above all others
      subst event'
      refine ⟨?_, fun n a' => ?_⟩
      · refine List.pairwise_append.2 ⟨(hc.lists event).sorted, List.pairwise_singleton _ _, ?_⟩
        intro p hp q hq
        rw [List.mem_singleton] at hq
        subst hq
        have := (hc.le_next hp).2
        simp only
        omega
      · rw [List.mem_append, List.mem_singleton, (hc.lists event).mem_iff, live_append_add,
          hc.next]
        simp [Prod.ext_iff, and_comm]
    · rename_i hne
      refine ⟨(hc.lists event').sorted, fun n a' => ?_⟩
      rw [(hc.lists event').mem_iff, live_append_add]
      simp [hne]

/-- A remover's call takes out, from whichever event, the entry under its own number, and no
other. -/
theorem Tracks.entries_remove (hc : c.Tracks) (n : Nat) (event : String) :
    (c.edit (.remove n)).table.entries event = (c.table.entries event).filter (·.1 != n) := by
  -- Entries of another event, or of a listener whose add has not happened, never carry `n`.
  have hkeep : ∀ event', (∀ p ∈ c.table.entries event', p.1 ≠ n) →
      c.table.entries event' = (c.table.entries event').filter (·.1 != n) := by
    intro event' h
    exact (List.filter_eq_self.2 fun p hp => by simpa using h p hp).symm
  cases n with
  | zero =>
    exact hkeep event fun p hp => (Nat.pos_iff_ne_zero.1 (hc.le_next hp).1)
  | succ k =>
    simp only [edit]
    cases hr : c.remover (k + 1) with
    | none =>
      rw [hc.remover_succ, Option.map_eq_none_iff, List.getElem?_eq_none_iff] at hr
      refine hkeep event fun p hp => ?_
      have := (hc.le_next hp).2
      rw [hc.next] at this
      omega
    | some r =>
      rw [hc.remover_succ, Option.map_eq_some_iff] at hr
      obtain ⟨⟨event_k, a_k⟩, hk, rfl⟩ := hr
      simp only [Option.map_some, Option.getD_some, Listeners.entries_remove]
      split
      · subst event
        rfl
      · rename_i hne
        refine hkeep event fun p hp hpn => hne ?_
        have hl := ((hc.lists event).mem_iff p.1 p.2).1 hp
        have := hl.getElem?
        rw [hpn, Nat.add_sub_cancel, hk] at this
        simp at this
        exact this.1.symm

theorem Tracks.remove (hc : c.Tracks) (n : Nat) : (c.edit (.remove n)).Tracks where
  next := by
    rw [history_edit, added_append]
    simp only [edit]
    cases c.remover n <;> simp [hc.next]
  removers := by simp [hc.removers, edit]
  lists event := by
    rw [hc.entries_remove, history_edit]
    refine ⟨(hc.lists event).sorted.filter _, fun m a => ?_⟩
    rw [List.mem_filter, (hc.lists event).mem_iff, live_append_remove]
    simp

/-- Every edit keeps the invariant. -/
theorem Tracks.edit (hc : c.Tracks) (x : Edit α) : (c.edit x).Tracks := by
  cases x with
  | add event a => exact hc.add event a
  | remove n => exact hc.remove n

theorem Tracks.foldl_edit (hc : c.Tracks) (xs : List (Edit α)) :
    (xs.foldl Client.edit c).Tracks := by
  induction xs generalizing c with
  | nil => exact hc
  | cons x xs ih => exact ih (hc.edit x)

/-- The invariant does not read which listeners have run. -/
theorem Tracks.withRan (hc : c.Tracks) (r : List α) : ({ c with ran := r } : Client α).Tracks :=
  ⟨hc.next, hc.removers, hc.lists⟩

theorem Tracks.run (hc : c.Tracks) (a : α) : (c.run body a).Tracks :=
  (hc.withRan _).foldl_edit (body c a)

theorem Tracks.foldl_run (hc : c.Tracks) (rs : List α) : (rs.foldl (Client.run body) c).Tracks := by
  induction rs generalizing c with
  | nil => exact hc
  | cons r rs ih => exact ih (hc.run r)

theorem Tracks.step (hc : c.Tracks) (st : Step α) : (c.step body st).Tracks := by
  cases st with
  | edit x => exact hc.edit x
  | fire event => exact hc.foldl_run _

/-- Every run keeps the invariant, whatever the listeners do when they run. -/
theorem tracks_after (body : Client α → α → List (Edit α)) (steps : List (Step α)) :
    (Client.after body steps).Tracks := by
  suffices h : ∀ c : Client α, c.Tracks → (steps.foldl (Client.step body) c).Tracks from
    h _ tracks_empty
  induction steps with
  | nil => exact fun c hc => hc
  | cons st steps ih => exact fun c hc => ih _ (hc.step st)

/-- A remover called twice leaves the table as the first call did. -/
theorem table_edit_remove_remove (c : Client α) (n : Nat) :
    ((c.edit (.remove n)).edit (.remove n)).table = (c.edit (.remove n)).table := by
  have hr : (c.edit (.remove n)).remover n = c.remover n := by
    cases n <;> rfl
  simp only [edit] at hr ⊢
  rw [hr]
  cases c.remover n with
  | none => rfl
  | some r => exact remove_remove c.table r.1 r.2

end Client

end Listeners

namespace Session

theorem reactAll_eq_foldl (s : Session) (rs : List Reaction) :
    s.reactAll rs = rs.foldl react s := by
  induction rs generalizing s with
  | nil => rfl
  | cons r rs ih => exact ih (s.react r)

/-- An event on an element fires the element's table. -/
theorem dispatch_eq_listeners (s : Session) (el : Nat) (event : String) :
    s.dispatch el event = Listeners.dispatch (fun s => s.handlersOf el) react s event := by
  simp [dispatch, Listeners.dispatch, reactAll_eq_foldl]

/-- A resize sets the width, then fires the window's table. -/
theorem resize_eq_listeners (s : Session) (width : Float) :
    s.resize width = (s.window.map fun w => Listeners.dispatch (fun s => s.table .window) react
      { s with window := some { w with width := width } } "resize").getD (s, 0) := by
  cases hw : s.window with
  | none => simp [resize, hw]
  | some w => simp [resize, hw, Listeners.dispatch, table, reactAll_eq_foldl]

end Session

open Listeners in
/-- Listener tables behave as ordered sets of live listeners. The events of a session's elements
and the resizes of its window fire their tables. For any run of a client, every event's entries
are its live listeners, each once, in the order they were added, and the event's count is their
number. Firing an event runs those entries, as they stood when it fired, and returns how many ran;
the edits its listeners make are added to the history, which the next firing reads. A remover
takes out its own listener only, and has no effect when called again. -/
theorem listeners_fire_live_listeners_in_order {α : Type} (body : Client α → α → List (Edit α))
    (steps : List (Step α)) :
    (∀ (s : Session) el event,
      s.dispatch el event = dispatch (fun s => s.handlersOf el) Session.react s event) ∧
    (∀ (s : Session) width, s.resize width = (s.window.map fun w =>
      dispatch (fun s => s.table .window) Session.react
        { s with window := some { w with width := width } } "resize").getD (s, 0)) ∧
    let c := Client.after body steps
    (∀ event, LiveList c.history event (c.table.entries event) ∧
      c.table.count event = (c.table.entries event).length) ∧
    (∀ event, (c.fire body event).1.ran = c.ran ++ (c.table.entries event).map (·.2) ∧
      (c.fire body event).2 = (c.table.entries event).length ∧
      c.history <+: (c.fire body event).1.history ∧
      (c.fire body event).1 = Client.after body (steps ++ [.fire event])) ∧
    (∀ n event, (c.edit (.remove n)).table.entries event =
        (c.table.entries event).filter (·.1 != n) ∧
      ((c.edit (.remove n)).edit (.remove n)).table = (c.edit (.remove n)).table) := by
  refine ⟨Session.dispatch_eq_listeners, Session.resize_eq_listeners, ?_⟩
  intro c
  have hc : c.Tracks := Client.tracks_after body steps
  refine ⟨fun event => ⟨hc.lists event, rfl⟩, fun event => ?_, fun n event => ?_⟩
  · refine ⟨Client.ran_fire c event, Client.count_fire c event, Client.history_fire c event, ?_⟩
    -- the firing is the last step of the longer run
    simp [c, Client.after, Client.step]
  · exact ⟨hc.entries_remove n event, Client.table_edit_remove_remove c n⟩

open Listeners in
/-- A listener that calls its own remover while it runs: the firing that runs it counts it, the
next one finds nothing. -/
example :
    let body : Client Unit → Unit → List (Edit Unit) := fun _ _ => [.remove 1]
    let c := Client.after body [.edit (.add "resize" ())]
    (c.fire body "resize").2 = 1 ∧ ((c.fire body "resize").1.fire body "resize").2 = 0 := by
  decide

end UtilityStyles
