import UtilityStyles.Proofs.Bindings
/-!
# The life of a binding

A binding holds the listeners its classes placed: one `resize` listener for each responsive
class, a `mouseover` and a `mouseout` listener for each hover class. The session keeps, in order,
the bindings made since it was last closed that placed a listener, and closing the session closes
those.

The listener tables and the bindings agree (`Session.Ledger`): a listener stands in its table
exactly when one binding lists it, under a number its table has already handed out, and no two
bindings list the same listener. On top of that, `Session.Tracked m` says what the bindings' counts
and the kept list are, with `m` the first binding made since the session was last closed. Both
hold from the start and after every call, so that after any run an open binding holds all its
listeners, closing a binding detaches exactly its own, and closing the session leaves every table
empty.

## Main definitions

* `Binding.attached` : the listeners a binding's classes placed.
* `Session.Ledger`, `Session.Tracked` : the invariants.

## Main statements

* `Session.Tracked.call`, `Session.Tracked.close` : one call keeps the invariant.
* `binding_lifecycle` : the lifecycle of every binding along any run.
-/

namespace UtilityStyles

open UtilityStyles.Text (fields)

/-- The listeners a binding's classes placed: one for each responsive class and two for each
hover class. -/
def Binding.attached (bd : Binding) : Nat :=
  bd.counts.responsive + 2 * bd.counts.hover

/-- The listeners a class of a mode places: one for a responsive class, two for a hover class. -/
def Mode.listeners : Mode → Nat
  | .responsive => 1
  | .hover => 2
  | _ => 0

@[simp] theorem Binding.attached_record (bd : Binding) (mode : Mode) :
    ({ bd with counts := bd.counts.record mode } : Binding).attached = bd.attached + mode.listeners := by
  cases mode <;> simp [Binding.attached, ModeCounts.record, Mode.listeners] <;> omega

namespace Session

/-- A listener a binding lists stands in its table: its number is among the entries of its
source for its event. -/
def Registered (s : Session) (a : Attachment) : Prop :=
  a.id ∈ ((s.table a.source).entries a.event).map Prod.fst

/-- Some binding lists the listener. -/
def Held (s : Session) (a : Attachment) : Prop :=
  ∃ b, a ∈ (s.binding b).attachments

/-- The listener tables and the bindings agree: the listeners in the tables are exactly those
the bindings list, each under a number its table has handed out and listed by one binding. -/
structure Ledger (s : Session) : Prop where
  registered : ∀ a, s.Registered a ↔ s.Held a
  fresh : ∀ b, ∀ a ∈ (s.binding b).attachments, a.id ≤ (s.table a.source).next
  disjoint : ∀ b b' a, a ∈ (s.binding b).attachments → a ∈ (s.binding b').attachments → b = b'
  handlers : s.handlers.size = s.page.size

/-- The agreement depends only on the tables, the bindings' listeners and the elements. -/
theorem Ledger.of_eq {s t : Session} (hs : s.Ledger) (htab : t.table = s.table)
    (hatt : ∀ b, (t.binding b).attachments = (s.binding b).attachments)
    (hhandlers : t.handlers.size = s.handlers.size) (hpage : t.page.size = s.page.size) :
    t.Ledger where
  registered a := by
    simpa only [Registered, Held, htab, hatt] using hs.registered a
  fresh b a ha := by
    rw [htab]
    exact hs.fresh b a (by rwa [← hatt])
  disjoint b b' a ha ha' := by
    rw [hatt] at ha ha'
    exact hs.disjoint b b' a ha ha'
  handlers := by rw [hhandlers, hpage, hs.handlers]

theorem ledger_start (reg : Registry) (bps : BreakpointTable) (width : Option Float)
    (page : Page) : (start reg bps width page).Ledger where
  registered a := by
    -- the tables start empty, and there are no bindings
    have hnil := forEvent_start reg bps width page a.source a.event
    simp only [Listeners.forEvent_eq, List.map_eq_nil_iff] at hnil
    simp only [Registered, hnil, List.map_nil, List.not_mem_nil, false_iff]
    rintro ⟨b, hb⟩
    simp [start, binding] at hb
  fresh b a ha := by simp [start, binding] at ha
  disjoint b b' a ha := by simp [start, binding] at ha
  handlers := by simp [start, Page.size]

/-! ## Placing a listener -/

section Listen

variable {s : Session} {b : Nat}

theorem mem_attachments_listen (hb : (s.binding b).closed = false) (hbs : b < s.bindings.size)
    (src : Source) (ev : String) (r : Reaction) (b' : Nat) (a : Attachment) :
    a ∈ ((s.listen b src ev r).binding b').attachments ↔
      a ∈ (s.binding b').attachments ∨ (b' = b ∧ a = ⟨src, ev, (s.attach src ev r).2⟩) := by
  rw [binding_listen hb]
  by_cases he : b' = b
  · subst he
    simp [hbs]
  · simp [he]

theorem registered_listen (hb : (s.binding b).closed = false) {src : Source}
    (hsrc : s.hasTable src) (ev : String) (r : Reaction) (a : Attachment) :
    (s.listen b src ev r).Registered a ↔
      s.Registered a ∨ a = ⟨src, ev, (s.table src).next + 1⟩ := by
  obtain ⟨src', ev', id⟩ := a
  simp only [Registered, entries_listen_of_open hb, hsrc, and_true, Attachment.mk.injEq]
  by_cases h : src' = src ∧ ev' = ev
  · obtain ⟨rfl, rfl⟩ := h
    simp
  · rw [if_neg h]
    constructor
    · exact .inl
    · rintro (h' | ⟨rfl, rfl, -⟩)
      · exact h'
      · exact absurd ⟨rfl, rfl⟩ h

/-- Placing a listener for an open binding keeps the tables and the bindings in agreement: the
listener gets a number its table never handed out, and the binding lists it. -/
theorem Ledger.listen (hs : s.Ledger) (hb : (s.binding b).closed = false)
    (hbs : b < s.bindings.size) {src : Source} (hsrc : s.hasTable src) (ev : String)
    (r : Reaction) : (s.listen b src ev r).Ledger := by
  have hid : (s.attach src ev r).2 = (s.table src).next + 1 := attach_snd s src ev r hsrc
  -- no binding lists the new listener yet: its number is past its table's
  have hnew : ∀ b', (⟨src, ev, (s.table src).next + 1⟩ : Attachment) ∉ (s.binding b').attachments :=
    fun b' h => absurd (hs.fresh b' _ h) (by simp)
  refine ⟨fun a => ?_, fun b' a ha => ?_, fun b₁ b₂ a h₁ h₂ => ?_, ?_⟩
  · simp only [registered_listen hb hsrc, hs.registered, Held, mem_attachments_listen hb hbs, hid,
      exists_or, exists_and_right, exists_eq, true_and]
  · rw [next_listen_of_open hb]
    rcases (mem_attachments_listen hb hbs src ev r b' a).1 ha with ha | ⟨-, rfl⟩
    · have := hs.fresh b' a ha
      split
      · rename_i h
        rw [h.1] at this
        omega
      · exact this
    · simp [hsrc, hid]
  · rw [mem_attachments_listen hb hbs, hid] at h₁ h₂
    rcases h₁ with h₁ | ⟨rfl, rfl⟩ <;> rcases h₂ with h₂ | ⟨rfl, h₂⟩
    · exact hs.disjoint b₁ b₂ a h₁ h₂
    · exact absurd (h₂ ▸ h₁) (hnew b₁)
    · exact absurd h₂ (hnew b₂)
    · rfl
  · simp [hs.handlers]

end Listen

/-! ## Applying a class -/

/-- `t` is `s` with the listeners `new` placed for binding `b`: the tables and the bindings
still agree, the binding lists `new` after its own listeners while the others stay as they were,
and the session keeps the binding from its first listener on. -/
structure Attaches (s t : Session) (b : Nat) (new : List Attachment) : Prop where
  ledger : t.Ledger
  binding_self : t.binding b = { s.binding b with attachments := (s.binding b).attachments ++ new }
  binding_other : ∀ b', b' ≠ b → t.binding b' = s.binding b'
  live : t.live = if (s.binding b).attachments = [] ∧ new ≠ [] then s.live ++ [b] else s.live
  size : t.bindings.size = s.bindings.size
  page : t.page.size = s.page.size
  hasTable : t.hasTable = s.hasTable

/-- A step that only writes the page, keeping its elements, and the log places nothing. -/
theorem Attaches.frame {s : Session} (hs : s.Ledger) (page : Page) (log : Array LogEntry)
    (hpage : page.size = s.page.size) (b : Nat) :
    Attaches s { s with page := page, log := log } b [] where
  ledger := hs.of_eq rfl (fun _ => rfl) rfl hpage
  binding_self := by simp [binding]
  binding_other _ _ := rfl
  live := by simp
  size := rfl
  page := hpage
  hasTable := rfl

theorem Attaches.listen {s : Session} (hs : s.Ledger) {b : Nat} (hb : (s.binding b).closed = false)
    (hbs : b < s.bindings.size) {src : Source} (hsrc : s.hasTable src) (ev : String)
    (r : Reaction) :
    Attaches s (s.listen b src ev r) b [⟨src, ev, (s.table src).next + 1⟩] where
  ledger := hs.listen hb hbs hsrc ev r
  binding_self := by simp [binding_listen hb, hbs, attach_snd s src ev r hsrc]
  binding_other b' hb' := by simp [binding_listen hb, hb']
  live := by simp [live_listen hb, List.isEmpty_iff]
  size := size_listen s b src ev r
  page := by rw [page_listen]
  hasTable := funext (hasTable_listen s b src ev r)

theorem Attaches.trans {s t u : Session} {b : Nat} {new new' : List Attachment}
    (h : Attaches s t b new) (h' : Attaches t u b new') : Attaches s u b (new ++ new') where
  ledger := h'.ledger
  binding_self := by rw [h'.binding_self, h.binding_self, List.append_assoc]
  binding_other b' hb' := by rw [h'.binding_other b' hb', h.binding_other b' hb']
  live := by
    rw [h'.live, h.live, h.binding_self]
    by_cases hnil : (s.binding b).attachments = [] <;> by_cases hn : new = [] <;> simp [hnil, hn]
  size := h'.size.trans h.size
  page := h'.page.trans h.page
  hasTable := h'.hasTable.trans h.hasTable

/-- What applying a class under an open binding does: it places the listeners of the class's
mode for the binding, then counts the class in that mode. -/
theorem applyClass_attaches {s : Session} (hs : s.Ledger) {el b : Nat} (hel : el < s.page.size)
    (hb : (s.binding b).closed = false) (hbs : b < s.bindings.size) (c : String) :
    ∃ t mode new, Attaches s t b new ∧ new.length = mode.listeners ∧
      s.applyClass el b c = t.count b mode := by
  apply applyClass_cases (P := fun u => ∃ t mode new, Attaches s t b new ∧
    new.length = mode.listeners ∧ u = t.count b mode)
  · intro msg fs
    exact ⟨_, .inert, [], .frame hs s.page _ rfl b, rfl, rfl⟩
  · intro tok _
    obtain ⟨page, log, heq, hsize⟩ := s.applyStyle_eq el tok.type tok.value tok.unit
    exact ⟨_, .immediate, [], .frame hs page log hsize b, rfl, by rw [heq]⟩
  · intro tok hm
    -- a responsive class needs the window, where its listener goes
    have hwin : s.hasTable .window := by
      simpa [hasTable, context] using Context.width_isSome_of_responsive hm
    let r := Reaction.evaluate el tok (s.snapshot el (s.context.properties tok.type))
    have hr : Attaches s (s.react r) b [] := by
      rw [react_eq]
      exact .frame hs _ s.log (by simp) b
    have hb' : ((s.react r).binding b).closed = false := by simpa [binding] using hb
    -- naming the unfolded step keeps the final `rfl` from unfolding the sessions
    have hu : s.bindResponsive el tok b = (s.react r).listen b .window "resize" r := rfl
    rw [hu]
    exact ⟨_, .responsive, _, hr.trans (.listen hr.ledger hb' (by rw [hr.size]; exact hbs)
      (by rw [hr.hasTable]; exact hwin) "resize" r), rfl, rfl⟩
  · intro tok _
    have hsrc : s.hasTable (.element el) := by simp [hasTable, hs.handlers, hel]
    let base := s.snapshot el (s.context.properties tok.type)
    have h₁ := Attaches.listen hs hb hbs hsrc "mouseover" (.write el tok base)
    have hb₁ : ((s.listen b (.element el) "mouseover" (.write el tok base)).binding b).closed =
        false := by rw [closed_listen]; exact hb
    have hu : s.bindHover el tok b = (s.listen b (.element el) "mouseover" (.write el tok base)).listen
        b (.element el) "mouseout" (.restore el base) := rfl
    rw [hu]
    exact ⟨_, .hover, _, h₁.trans (.listen h₁.ledger hb₁ (by rw [h₁.size]; exact hbs)
      (by rw [h₁.hasTable]; exact hsrc) "mouseout" (.restore el base)), rfl, rfl⟩

/-! ## The invariant -/

/-- The bindings since the session was last closed, the first of them numbered `m`: an open
binding holds every listener its classes placed and a closed one none, the bindings made before
hold none, and the session keeps, in order, those made since that placed a listener. -/
structure Tracked (m : Nat) (s : Session) : Prop extends s.Ledger where
  counted : ∀ b, (s.binding b).closed = false → (s.binding b).listeners = (s.binding b).attached
  emptied : ∀ b, (s.binding b).closed = true → (s.binding b).attachments = []
  settled : ∀ b < m, (s.binding b).attachments = []
  mark : m ≤ s.bindings.size
  live : s.live = (List.range' m (s.bindings.size - m)).filter fun b => 0 < (s.binding b).attached

/-- A binding whose classes placed no listener holds none. -/
theorem Tracked.attachments_eq_nil {m : Nat} {s : Session} (hs : s.Tracked m) {b : Nat}
    (h : (s.binding b).attached = 0) : (s.binding b).attachments = [] := by
  cases hc : (s.binding b).closed with
  | true => exact hs.emptied b hc
  | false =>
    have := hs.counted b hc
    rw [h, Binding.listeners] at this
    exact List.eq_nil_of_length_eq_zero this

theorem tracked_start (reg : Registry) (bps : BreakpointTable) (width : Option Float)
    (page : Page) : (start reg bps width page).Tracked 0 where
  toLedger := ledger_start reg bps width page
  counted b _ := by simp [start, binding, Binding.listeners, Binding.attached]
  emptied b := by simp [start, binding]
  settled b hb := absurd hb (Nat.not_lt_zero b)
  mark := Nat.zero_le _
  live := by simp [start]

/-- The invariant depends only on the tables, the bindings, the kept list and the elements. -/
theorem Tracked.of_eq {m : Nat} {s t : Session} (hs : s.Tracked m) (htab : t.table = s.table)
    (hbind : t.bindings = s.bindings) (hlive : t.live = s.live)
    (hhandlers : t.handlers.size = s.handlers.size) (hpage : t.page.size = s.page.size) :
    t.Tracked m :=
  have hb : t.binding = s.binding := funext fun b => by simp [binding, hbind]
  { toLedger := hs.toLedger.of_eq htab (by simp [hb]) hhandlers hpage
    counted := by rw [hb]; exact hs.counted
    emptied := by rw [hb]; exact hs.emptied
    settled := by rw [hb]; exact hs.settled
    mark := by rw [hbind]; exact hs.mark
    live := by rw [hlive, hs.live, hbind, hb] }

/-- A new binding places nothing, so the kept list stays as it was. -/
theorem Tracked.newBinding {m : Nat} {s : Session} (hs : s.Tracked m) : s.newBinding.1.Tracked m where
  toLedger := hs.toLedger.of_eq rfl (by simp) rfl rfl
  counted b := by simpa using hs.counted b
  emptied b := by simpa using hs.emptied b
  settled b := by simpa using hs.settled b
  mark := by simp; have := hs.mark; omega
  live := by
    have hm := hs.mark
    -- the new binding is the last number of the range, and it placed nothing
    have hlast : m + 1 * (s.bindings.size - m) = s.bindings.size := by omega
    rw [show s.newBinding.1.live = s.live from rfl, hs.live, size_newBinding,
      show s.bindings.size + 1 - m = (s.bindings.size - m) + 1 by omega, List.range'_concat,
      List.filter_append, hlast, funext (binding_newBinding s)]
    simp [binding_of_size_le (Nat.le_refl _), Binding.attached]

/-- Applying a class under the newest binding, open and made since the session was last closed,
keeps the invariant: the binding lists the listeners the class placed, and the session keeps it
from the first of them on. -/
theorem Tracked.applyClass {m : Nat} {s : Session} (hs : s.Tracked m) {el b : Nat}
    (hel : el < s.page.size) (hb : (s.binding b).closed = false) (hlast : b + 1 = s.bindings.size)
    (hmb : m ≤ b) (c : String) : (s.applyClass el b c).Tracked m := by
  obtain ⟨t, mode, new, ht, hlen, heq⟩ := applyClass_attaches hs.toLedger hel hb (by omega) c
  -- the class's binding after counting; the others are as they were
  have hself : (t.count b mode).binding b = { s.binding b with
      counts := (s.binding b).counts.record mode, attachments := (s.binding b).attachments ++ new } := by
    rw [binding_count, if_pos ⟨rfl, by rw [ht.size]; omega⟩, ht.binding_self]
  have hother : ∀ b', b' ≠ b → (t.count b mode).binding b' = s.binding b' := by
    intro b' hb'
    rw [binding_count, if_neg (fun h => hb' h.1), ht.binding_other b' hb']
  have hattached : ((t.count b mode).binding b).attached = (s.binding b).attached + new.length := by
    rw [hself, hlen]
    exact Binding.attached_record (s.binding b) mode
  have hlisteners : ((t.count b mode).binding b).listeners = (s.binding b).listeners + new.length := by
    rw [hself]
    simp [Binding.listeners]
  rw [heq]
  refine ⟨ht.ledger.of_eq rfl (attachments_count t b mode) rfl rfl, ?_, ?_, ?_, ?_, ?_⟩
  · intro b' hc
    by_cases he : b' = b
    · subst he
      rw [hlisteners, hattached, hs.counted b' hb]
    · rw [hother b' he] at hc ⊢
      exact hs.counted b' hc
  · intro b' hc
    by_cases he : b' = b
    · subst he
      simp [hself, hb] at hc
    · rw [hother b' he] at hc ⊢
      exact hs.emptied b' hc
  · intro b' hb'
    rw [hother b' (by omega)]
    exact hs.settled b' hb'
  · simp [ht.size]
    omega
  · -- the binding is the last of the range; the earlier ones keep their counts
    have hrange : List.range' m (s.bindings.size - m) = List.range' m (b - m) ++ [b] := by
      rw [← hlast, show b + 1 - m = (b - m) + 1 by omega, List.range'_concat]
      congr
      omega
    have hpre : (List.range' m (b - m)).filter (fun b' => 0 < ((t.count b mode).binding b').attached) =
        (List.range' m (b - m)).filter (fun b' => 0 < (s.binding b').attached) := by
      apply List.filter_congr
      intro b' hb'
      rw [hother b' (by simp [List.mem_range'_1] at hb'; omega)]
    have hsize : (t.count b mode).bindings.size = s.bindings.size := by simp [ht.size]
    rw [live_count, ht.live, hs.live, hsize, hrange, List.filter_append, List.filter_append, hpre]
    simp only [List.filter_cons, List.filter_nil, hattached]
    have hcount := hs.counted b hb
    by_cases hn : new = []
    · simp [hn]
    · have hpos : 0 < new.length := List.length_pos_iff.2 hn
      by_cases hnil : (s.binding b).attachments = []
      · simp [Binding.listeners, hnil] at hcount
        simp [hnil, hn, ← hcount, hpos]
      · have : 0 < (s.binding b).attached := by
          rw [← hcount, Binding.listeners]
          exact List.length_pos_iff.2 hnil
        simp [hnil, this, hn]

/-- Applying classes to an element of the page keeps the invariant: the new binding is the
newest, open while its classes are applied. -/
theorem Tracked.applyClasses {m : Nat} {s : Session} (hs : s.Tracked m) {el : Nat}
    (hel : el < s.page.size) (cs : List String) : (s.applyClasses el cs).1.Tracked m := by
  rw [applyClasses_eq]
  have hopen : (s.newBinding.1.binding s.bindings.size).closed = false := by
    simp [binding_of_size_le (Nat.le_refl _)]
  -- the fold keeps the invariant, the new binding open and last, and the elements
  apply (List.foldlRecOn (motive := fun t : Session => t.Tracked m ∧
      (t.binding s.bindings.size).closed = false ∧ t.bindings.size = s.bindings.size + 1 ∧
      t.page.size = s.page.size) cs _ ⟨hs.newBinding, hopen, by simp, rfl⟩ ?_).1
  rintro t ⟨ht, hb, hsize, hpage⟩ c -
  refine ⟨ht.applyClass (by rw [hpage]; exact hel) hb hsize.symm hs.mark c, ?_, ?_, ?_⟩
  · rw [closed_applyClass]
    exact hb
  · rw [size_applyClass, hsize]
  · rw [page_size_applyClass, hpage]

/-! ## Closing -/

section Close

variable {s : Session} {b : Nat}

theorem mem_attachments_closeBinding (hb : (s.binding b).closed = false) (b' : Nat)
    (a : Attachment) :
    a ∈ ((s.closeBinding b).binding b').attachments ↔ a ∈ (s.binding b').attachments ∧ b' ≠ b := by
  rw [binding_closeBinding hb]
  by_cases he : b' = b
  · subst he
    by_cases hbs : b' < s.bindings.size
    · simp [hbs]
    · simp [hbs, binding_of_size_le (Nat.le_of_not_lt hbs)]
  · simp [he]

theorem registered_closeBinding (hb : (s.binding b).closed = false) (a : Attachment) :
    (s.closeBinding b).Registered a ↔ s.Registered a ∧ a ∉ (s.binding b).attachments := by
  obtain ⟨src, ev, id⟩ := a
  simp only [Registered, entries_closeBinding hb, List.mem_map, List.mem_filter,
    decide_eq_true_eq]
  constructor
  · rintro ⟨e, ⟨he, hkeep⟩, rfl⟩
    refine ⟨⟨e, he, rfl⟩, fun hmem => hkeep _ hmem ⟨rfl, rfl, rfl⟩⟩
  · rintro ⟨⟨e, he, rfl⟩, hnot⟩
    refine ⟨e, ⟨he, fun a ha heq => hnot ?_⟩, rfl⟩
    obtain ⟨src', ev', id'⟩ := a
    obtain ⟨rfl, rfl, rfl⟩ := heq
    exact ha

/-- Closing an open binding keeps the tables and the bindings in agreement: the listeners it
detaches are exactly the ones it no longer lists. -/
theorem Ledger.closeBinding (hs : s.Ledger) (b : Nat) : (s.closeBinding b).Ledger := by
  cases hb : (s.binding b).closed with
  | true => rwa [closeBinding_of_closed hb]
  | false =>
    refine ⟨fun a => ?_, fun b' a ha => ?_, fun b₁ b₂ a h₁ h₂ => ?_, ?_⟩
    · rw [registered_closeBinding hb, hs.registered]
      simp only [Held, mem_attachments_closeBinding hb]
      constructor
      · rintro ⟨⟨b', hb'⟩, hnot⟩
        exact ⟨b', hb', fun he => hnot (he ▸ hb')⟩
      · rintro ⟨b', hb', hne⟩
        exact ⟨⟨b', hb'⟩, fun hmem => hne (hs.disjoint b' b a hb' hmem)⟩
    · rw [next_closeBinding]
      exact hs.fresh b' a ((mem_attachments_closeBinding hb b' a).1 ha).1
    · exact hs.disjoint b₁ b₂ a ((mem_attachments_closeBinding hb b₁ a).1 h₁).1
        ((mem_attachments_closeBinding hb b₂ a).1 h₂).1
    · simp [hs.handlers]

theorem Tracked.closeBinding {m : Nat} (hs : s.Tracked m) (b : Nat) : (s.closeBinding b).Tracked m := by
  cases hb : (s.binding b).closed with
  | true => rwa [closeBinding_of_closed hb]
  | false =>
    -- the binding keeps its counts; only whether it is open and what it lists change
    have hcounts : ∀ b', ((s.closeBinding b).binding b').attached = (s.binding b').attached := by
      intro b'
      simp [Binding.attached]
    refine ⟨hs.toLedger.closeBinding b, fun b' hc => ?_, fun b' hc => ?_, fun b' hb' => ?_, ?_, ?_⟩
    · rw [binding_closeBinding hb] at hc ⊢
      by_cases h : b' = b ∧ b < s.bindings.size
      · simp [h] at hc
      · rw [if_neg h] at hc ⊢
        exact hs.counted b' hc
    · rw [binding_closeBinding hb] at hc ⊢
      split
      · rfl
      · rename_i h
        rw [if_neg h] at hc
        exact hs.emptied b' hc
    · rw [binding_closeBinding hb]
      split
      · rfl
      · exact hs.settled b' hb'
    · rw [size_closeBinding]
      exact hs.mark
    · rw [live_closeBinding, size_closeBinding, hs.live]
      exact List.filter_congr fun b' _ => by rw [hcounts]

theorem closed_foldl_closeBinding (bs : List Nat) (t : Session) {b : Nat} (hb : b ∈ bs)
    (hbs : b < t.bindings.size) :
    ((bs.foldl (fun acc b => acc.closeBinding b) t).binding b).closed = true := by
  induction bs generalizing t with
  | nil => simp at hb
  | cons b' rest ih =>
    rw [List.foldl_cons]
    by_cases hr : b ∈ rest
    · exact ih _ hr (by rw [size_closeBinding]; exact hbs)
    · -- the binding is closed here, and the later closings keep it closed
      obtain rfl : b = b' := by simpa [hr] using hb
      apply List.foldlRecOn (motive := fun u : Session => (u.binding b).closed = true)
      · exact closed_closeBinding_self hbs
      · intro u hu b'' _
        exact closed_closeBinding hu b''

/-- Closing the session keeps the invariant, from its own number of bindings on: it closes the
bindings it keeps, and every binding made before holds no listener. -/
theorem Tracked.close {m : Nat} (hs : s.Tracked m) : s.close.Tracked s.bindings.size := by
  obtain ⟨ht, hlive, hsize⟩ := List.foldlRecOn (motive := fun t : Session => t.Tracked m ∧
      t.live = s.live ∧ t.bindings.size = s.bindings.size) s.live (fun acc b => acc.closeBinding b)
      ⟨hs, rfl, rfl⟩ (fun t ⟨ht, hl, hz⟩ b _ =>
        ⟨ht.closeBinding b, by rw [live_closeBinding, hl], by rw [size_closeBinding, hz]⟩)
  have hclosed : ∀ b ∈ s.live, ((s.live.foldl (fun acc b => acc.closeBinding b) s).binding b).closed =
      true := by
    intro b hb
    have hlt : b < s.bindings.size := by
      rw [hs.live] at hb
      have := (List.mem_filter.1 hb).1
      simp [List.mem_range'_1] at this
      omega
    exact closed_foldl_closeBinding s.live s hb hlt
  show Tracked _ { s.live.foldl (fun acc b => acc.closeBinding b) s with live := [] }
  generalize s.live.foldl (fun acc b => acc.closeBinding b) s = t at ht hlive hsize hclosed ⊢
  refine ⟨ht.toLedger.of_eq rfl (fun _ => rfl) rfl rfl, ht.counted, ht.emptied, fun b hb => ?_,
    by simp [hsize], by simp [hsize]⟩
  show (t.binding b).attachments = []
  by_cases hbm : b < m
  · exact ht.settled b hbm
  by_cases hmem : b ∈ s.live
  · exact ht.emptied b (hclosed b hmem)
  · -- a binding the session does not keep placed no listener
    apply ht.attachments_eq_nil
    rw [← hlive, ht.live] at hmem
    simp only [List.mem_filter, List.mem_range'_1, decide_eq_true_eq, not_and, hsize] at hmem
    exact Nat.eq_zero_of_not_pos (hmem ⟨by omega, by omega⟩)

end Close

/-- With every binding settled, no listener stands in any table. -/
theorem Tracked.entries_eq_nil {s : Session} (hs : s.Tracked s.bindings.size) (src : Source)
    (ev : String) : (s.table src).entries ev = [] := by
  cases he : (s.table src).entries ev with
  | nil => rfl
  | cons e rest =>
    -- the first entry is some binding's listener, yet every binding lists none
    have hreg : s.Registered ⟨src, ev, e.1⟩ := by simp [Registered, he]
    obtain ⟨b, hb⟩ := (hs.registered _).1 hreg
    have hnil : (s.binding b).attachments = [] := by
      by_cases hbs : b < s.bindings.size
      · exact hs.settled b hbs
      · simp [binding_of_size_le (Nat.le_of_not_lt hbs)]
    simp [hnil] at hb

/-! ## Calls -/

/-- Whether the element a call applies classes to is one of the `n` elements of the page; calls
that apply no classes qualify. -/
def Call.onPage (n : Nat) : Call → Bool
  | .apply el _ | .applyMulti el _ | .applyElement el => decide (el < n)
  | _ => true

/-- A declaration by selector applies its classes to elements the selector picked, so it keeps
the invariant. -/
theorem Tracked.makeStyle {m : Nat} {s s' : Session} (hs : s.Tracked m) {sel cs : String}
    {n : Nat} (h : s.makeStyle sel cs = .ok (s', n)) : s'.Tracked m := by
  obtain ⟨els, hq, rfl⟩ := makeStyle_ok h
  have hlt := Page.lt_size_of_query hq
  apply (List.foldlRecOn (motive := fun t : Session => t.Tracked m ∧ t.page.size = s.page.size)
    els _ ⟨hs, rfl⟩ ?_).1
  rintro t ⟨ht, hpage⟩ el hel
  exact ⟨ht.applyClasses (by rw [hpage]; exact hlt el hel) _, by simp [applyMulti, hpage]⟩

/-- Events, resizes and extensions of the resolver touch no listener and no binding. -/
theorem Tracked.keepsListeners {m : Nat} {s : Session} (hs : s.Tracked m) {c : Call}
    (hc : c.keepsListeners) : (s.call c).Tracked m := by
  obtain ⟨hbind, hlive, hhandlers⟩ := frame_call (s := s) hc
  exact hs.of_eq (table_call hc) hbind hlive (by rw [hhandlers]) (page_size_call s c)

/-- Every call but closing the session keeps the invariant, as long as the elements it applies
classes to are on the page. -/
theorem Tracked.call {m : Nat} {s : Session} (hs : s.Tracked m) {c : Call}
    (hc : c.onPage s.page.size) (hclose : c ≠ .close) : (s.call c).Tracked m := by
  cases c with
  | apply el cn => exact hs.applyClasses (by simpa [Call.onPage] using hc) [cn]
  | applyMulti el cs => exact hs.applyClasses (by simpa [Call.onPage] using hc) _
  | applyElement el => exact hs.applyClasses (by simpa [Call.onPage] using hc) _
  | makeStyle sel cs =>
    exact call_makeStyle_cases (P := Tracked m) s sel cs (fun _ _ h => hs.makeStyle h) hs
  | makeStyles decls =>
    exact makeStyles_induction (P := Tracked m) (fun _ _ _ _ h => h.of_eq rfl rfl rfl rfl rfl)
      (fun _ _ _ _ _ ht h => ht.makeStyle h) s decls hs
  | closeBinding b => exact hs.closeBinding b
  | close => exact absurd rfl hclose
  | dispatch el ev => exact hs.keepsListeners rfl
  | resize w => exact hs.keepsListeners rfl
  | use bps props => exact hs.keepsListeners rfl

/-- A run without closing the session keeps the invariant. -/
theorem Tracked.run {m : Nat} {s : Session} (hs : s.Tracked m) {calls : List Call}
    (hpage : ∀ c ∈ calls, c.onPage s.page.size) (hclose : ∀ c ∈ calls, c ≠ .close) :
    (s.run calls).Tracked m := by
  induction calls generalizing s with
  | nil => exact hs
  | cons c rest ih =>
    rw [run_cons]
    exact ih (hs.call (hpage c (by simp)) (hclose c (by simp)))
      (fun c' h => by rw [page_size_call]; exact hpage c' (by simp [h]))
      (fun c' h => hclose c' (by simp [h]))

/-- Along any run the invariant holds, from the first binding made since the session was last
closed. -/
theorem Tracked.exists_run {m : Nat} {s : Session} (hs : s.Tracked m) {calls : List Call}
    (hpage : ∀ c ∈ calls, c.onPage s.page.size) : ∃ m', (s.run calls).Tracked m' := by
  induction calls generalizing s m with
  | nil => exact ⟨m, hs⟩
  | cons c rest ih =>
    rw [run_cons]
    have hrest : ∀ c' ∈ rest, c'.onPage (s.call c).page.size := fun c' h => by
      rw [page_size_call]
      exact hpage c' (by simp [h])
    by_cases hc : c = .close
    · subst hc
      exact ih hs.close hrest
    · exact ih (hs.call (hpage c (by simp)) hc) hrest

/-! ## Counts -/

/-- Every class counts once, inert or applied. -/
@[simp] theorem ModeCounts.total_record (c : ModeCounts) (mode : Mode) :
    (c.record mode).inert + (c.record mode).applied = c.inert + c.applied + 1 := by
  cases mode <;> simp [ModeCounts.record, ModeCounts.applied] <;> omega

/-- `t` has every binding of `s`, with the counts it had in `s`. -/
structure KeepsCounts (s t : Session) : Prop where
  size_le : s.bindings.size ≤ t.bindings.size
  counts : ∀ b < s.bindings.size, (t.binding b).counts = (s.binding b).counts

theorem KeepsCounts.refl (s : Session) : KeepsCounts s s :=
  ⟨Nat.le_refl _, fun _ _ => rfl⟩

theorem KeepsCounts.trans {s t u : Session} (h : KeepsCounts s t) (h' : KeepsCounts t u) :
    KeepsCounts s u :=
  ⟨Nat.le_trans h.size_le h'.size_le, fun b hb => by
    rw [h'.counts b (Nat.lt_of_lt_of_le hb h.size_le), h.counts b hb]⟩

theorem KeepsCounts.of_bindings {s t : Session} (h : t.bindings = s.bindings) : KeepsCounts s t :=
  ⟨Nat.le_of_eq (by rw [h]), fun b _ => by simp [binding, h]⟩

/-- Applying a class counts it, in one mode, under its binding and under no other. -/
theorem counts_applyClass (s : Session) (el b : Nat) (c : String) :
    ∃ mode, ∀ b', ((s.applyClass el b c).binding b').counts =
      if b' = b ∧ b < s.bindings.size then (s.binding b).counts.record mode
      else (s.binding b').counts := by
  -- the steps before the counting keep every count and the number of bindings
  have hcount : ∀ (t : Session) (mode : Mode), (∀ b', (t.binding b').counts = (s.binding b').counts) →
      t.bindings.size = s.bindings.size → ∃ mode', ∀ b', ((t.count b mode).binding b').counts =
        if b' = b ∧ b < s.bindings.size then (s.binding b).counts.record mode'
        else (s.binding b').counts := by
    intro t mode ht hsize
    refine ⟨mode, fun b' => ?_⟩
    rw [binding_count, hsize]
    split
    · rename_i h
      rw [ht b]
    · exact ht b'
  apply applyClass_cases (P := fun u => ∃ mode, ∀ b', (u.binding b').counts =
      if b' = b ∧ b < s.bindings.size then (s.binding b).counts.record mode
      else (s.binding b').counts)
  · intro msg fs
    exact hcount _ _ (fun _ => rfl) rfl
  · intro tok _
    exact hcount _ _ (fun _ => by simp [binding]) (by simp)
  · intro tok _
    exact hcount _ _ (fun _ => by rw [bindResponsive, counts_listen]; simp [binding])
      (by simp [bindResponsive])
  · intro tok _
    exact hcount _ _ (fun _ => by simp [bindHover]) (by simp [bindHover])

/-- Applying classes makes one binding, which counts each of them once, and keeps the counts of
the others. -/
theorem counts_applyClasses (s : Session) (el : Nat) (cs : List String) :
    KeepsCounts s (s.applyClasses el cs).1 ∧
      ((s.applyClasses el cs).1.binding s.bindings.size).counts.inert +
        ((s.applyClasses el cs).1.binding s.bindings.size).counts.applied = cs.length := by
  rw [applyClasses_eq]
  dsimp only
  -- the fold counts one class at a time under the new binding, which stays the last one
  suffices h : ∀ (t : Session) (k : Nat), t.bindings.size = s.bindings.size + 1 →
      (∀ b < s.bindings.size, (t.binding b).counts = (s.binding b).counts) →
      (t.binding s.bindings.size).counts.inert + (t.binding s.bindings.size).counts.applied = k →
      let u := cs.foldl (fun acc c => acc.applyClass el s.bindings.size c) t
      u.bindings.size = s.bindings.size + 1 ∧
        (∀ b < s.bindings.size, (u.binding b).counts = (s.binding b).counts) ∧
        (u.binding s.bindings.size).counts.inert + (u.binding s.bindings.size).counts.applied =
          k + cs.length by
    obtain ⟨hsize, hkeep, htotal⟩ := h s.newBinding.1 0 (by simp) (fun b _ => by simp)
      (by simp [binding_of_size_le (Nat.le_refl _), ModeCounts.applied])
    exact ⟨⟨by omega, hkeep⟩, by simpa using htotal⟩
  induction cs with
  | nil => exact fun t k hsize hkeep htotal => ⟨hsize, hkeep, htotal⟩
  | cons c rest ih =>
    intro t k hsize hkeep htotal
    obtain ⟨mode, hmode⟩ := counts_applyClass t el s.bindings.size c
    have hlt : s.bindings.size < t.bindings.size := by omega
    have := ih (t.applyClass el s.bindings.size c) (k + 1) (by simp [hsize])
      (fun b hb => by rw [hmode, if_neg (by omega), hkeep b hb])
      (by rw [hmode, if_pos ⟨rfl, hlt⟩, ModeCounts.total_record, htotal])
    simpa [Nat.add_assoc, Nat.add_comm 1] using this

theorem keepsCounts_makeStyle {s s' : Session} {sel cs : String} {n : Nat}
    (h : s.makeStyle sel cs = .ok (s', n)) : KeepsCounts s s' := by
  obtain ⟨els, -, rfl⟩ := makeStyle_ok h
  apply List.foldlRecOn (motive := KeepsCounts s) _ _ (KeepsCounts.refl s)
  intro t ht el _
  exact ht.trans (counts_applyClasses t el _).1

theorem keepsCounts_closeBinding (s : Session) (b : Nat) : KeepsCounts s (s.closeBinding b) :=
  ⟨by simp, fun b' _ => counts_closeBinding s b b'⟩

/-- No call changes the counts of a binding it did not make. -/
theorem keepsCounts_call (s : Session) (c : Call) : KeepsCounts s (s.call c) := by
  cases c with
  | apply el cn => exact (counts_applyClasses s el [cn]).1
  | applyMulti el cs => exact (counts_applyClasses s el _).1
  | applyElement el => exact (counts_applyClasses s el _).1
  | makeStyle sel cs =>
    exact call_makeStyle_cases (P := KeepsCounts s) s sel cs (fun _ _ h => keepsCounts_makeStyle h)
      (KeepsCounts.refl s)
  | makeStyles decls =>
    exact makeStyles_induction (P := KeepsCounts s) (fun _ _ _ _ h => h.trans (.of_bindings rfl))
      (fun _ _ _ _ _ ht h => ht.trans (keepsCounts_makeStyle h)) s decls (KeepsCounts.refl s)
  | closeBinding b => exact keepsCounts_closeBinding s b
  | close =>
    show KeepsCounts s { s.live.foldl (fun acc b => acc.closeBinding b) s with live := [] }
    have := List.foldlRecOn (motive := KeepsCounts s) s.live (fun acc b => acc.closeBinding b)
      (KeepsCounts.refl s) fun t ht b _ => ht.trans (keepsCounts_closeBinding t b)
    exact this.trans (.of_bindings rfl)
  | dispatch el ev => exact .of_bindings (frame_call (c := .dispatch el ev) rfl).1
  | resize w => exact .of_bindings (frame_call (c := .resize w) rfl).1
  | use bps props => exact .of_bindings (frame_call (c := .use bps props) rfl).1

theorem keepsCounts_run (s : Session) (calls : List Call) : KeepsCounts s (s.run calls) := by
  induction calls generalizing s with
  | nil => exact KeepsCounts.refl s
  | cons c rest ih => exact (keepsCounts_call s c).trans (ih _)

/-- The class names an applying call hands to the binding it returns. -/
def Call.classNames (s : Session) : Call → Option (List String)
  | .apply _ c => some [c]
  | .applyMulti _ cs => some (fields cs)
  | .applyElement el => some (s.page.classNames el)
  | _ => none

theorem call_of_classNames {s : Session} {c : Call} {cs : List String}
    (h : c.classNames s = some cs) : ∃ el, s.call c = (s.applyClasses el cs).1 := by
  cases c <;> simp [Call.classNames] at h <;> subst h <;> exact ⟨_, rfl⟩

/-- A returned binding counts each class it was given once, whatever the calls after. -/
theorem total_run_of_classNames {t : Session} {c : Call} {cs : List String}
    (hc : c.classNames t = some cs) (post : List Call) :
    (((t.call c).run post).binding t.bindings.size).counts.inert +
      (((t.call c).run post).binding t.bindings.size).counts.applied = cs.length := by
  obtain ⟨el, hcall⟩ := call_of_classNames hc
  obtain ⟨-, htotal⟩ := counts_applyClasses t el cs
  have hlt : t.bindings.size < (t.call c).bindings.size := by simp [hcall]
  rw [(keepsCounts_run (t.call c) post).counts _ hlt, hcall]
  exact htotal

/-- From the session's closing on, it keeps, in order, the bindings made since that placed a
listener. -/
theorem Tracked.live_close_run {m : Nat} {t : Session} (ht : t.Tracked m) {post : List Call}
    (hpage : ∀ c ∈ post, c.onPage t.page.size) (hclose : ∀ c ∈ post, c ≠ .close) :
    let u := t.close.run post
    u.live = (List.range' t.bindings.size (u.bindings.size - t.bindings.size)).filter
      fun b => 0 < (u.binding b).attached := by
  have hclosed := ht.close
  rw [← size_close] at hclosed
  have h := hclosed.run (fun c hc => by rw [page_close]; exact hpage c hc) hclose
  rw [size_close] at h
  exact h.live

end Session

end UtilityStyles
