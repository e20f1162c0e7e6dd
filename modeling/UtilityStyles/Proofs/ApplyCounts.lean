import UtilityStyles.Proofs.Lifecycle
import UtilityStyles.Batch.Apply
import Mathlib
/-!
# What a batch run counts

A batch run finds the documents its patterns select and styles each in turn. Its result counts
the files found and skipped, lists an outcome for every document, and adds up the outcomes of
the documents that succeeded.

The files found are the regular files among the paths the patterns select, each at its first
place, in pattern order and then in the order each pattern expands (`discover_eq`); the ignored
ones are counted and skipped. The glob expansion and the ignore file are taken as they are.

Styling a document applies the classes of each element that has a class attribute under a new
binding. Nothing a session does changes a class attribute (`classAttr_applyClasses`), so the
classes each element's binding counts are the classes of the element as read; and an open
binding holds one listener for each responsive class and two for each hover class
(`Session.Tracked`). So each document's counts are sums over its elements (`Counted`).

## Main definitions

* `selectedPaths`, `foundFiles` : the paths the patterns select, and the files among them.
* `Counted` : what a document's counts say of its page.
* `Recorded`, `Ran` : the counters of a run, and the run, against the outcomes so far.
* `Accounted` : what the result of a run says.

## Main statements

* `discover_eq` : the files found, skipped and kept.
* `applyFile_spec`, `Counted.classes_eq` : the outcome and the counts of one document.
* `apply_accounting` : the counts of a whole run.
-/

namespace UtilityStyles

open UtilityStyles.Markup (Attr QName)

/-! ## Class attributes stay -/

namespace Markup

theorem QName.beq_eq (x y : QName) :
    (x == y) = (x.space == y.space && x.localName == y.localName) := by
  cases x; cases y; rfl

instance : LawfulBEq QName where
  eq_of_beq {x y} h := by
    rw [QName.beq_eq] at h
    cases x; cases y
    simp_all
  rfl {x} := by simp [QName.beq_eq]

end Markup

namespace Page

theorem selects_class_ne_style {n : QName} (h : (QName.ofKey "class").selects n = true) :
    n ≠ QName.ofKey "style" := by
  rintro rfl
  have hc : QName.ofKey "class" = ⟨"", "class"⟩ := by decide
  have hs : QName.ofKey "style" = ⟨"", "style"⟩ := by decide
  rw [hc, hs] at h
  simp [QName.selects] at h

/-- A search finds the same in a list changed only where the search does not look. -/
theorem find?_map_of_fixed {α : Type} {p : α → Bool} {f : α → α} (hp : ∀ a, p (f a) = p a)
    (hf : ∀ a, p a = true → f a = a) (l : List α) : (l.map f).find? p = l.find? p := by
  induction l with
  | nil => rfl
  | cons a l ih =>
    by_cases ha : p a = true
    · simp [ha, hf a ha]
    · simp [hp, ha, ih]

/-- Setting the style attribute leaves the class attribute alone. -/
theorem lookup_class_put (attrs : List Attr) (v : String) :
    Attr.lookup (Attr.put attrs "style" v) "class" = Attr.lookup attrs "class" := by
  unfold Attr.put Attr.lookup
  dsimp only
  split
  · -- the attributes named `style` take the value; none of them is a class attribute
    rw [find?_map_of_fixed (fun a => by split <;> rfl)
      (fun a ha => by simp [selects_class_ne_style ha])]
  · rw [List.find?_append]
    have hnew : ([⟨QName.ofKey "style", v⟩] : List Attr).find?
        (fun a => (QName.ofKey "class").selects a.name) = none := by
      simp only [List.find?_cons, List.find?_nil]
      split
      · rename_i h
        exact absurd rfl (selects_class_ne_style h)
      · rfl
    rw [hnew, Option.or_none]

/-- Removing the style attribute leaves the class attribute alone. -/
theorem lookup_class_remove (attrs : List Attr) :
    Attr.lookup (Attr.remove attrs "style") "class" = Attr.lookup attrs "class" := by
  induction attrs with
  | nil => rfl
  | cons a rest ih =>
    unfold Attr.remove
    split
    · rename_i h
      have hna : (QName.ofKey "class").selects a.name = false := by
        cases hs : (QName.ofKey "class").selects a.name with
        | false => rfl
        | true => exact absurd (beq_iff_eq.1 h) (selects_class_ne_style hs)
      simp [Attr.lookup, hna]
    · simp only [Attr.lookup, List.find?_cons] at ih ⊢
      split <;> simp [ih]

@[simp] theorem classAttr_setStyle (p : Page) (i : Nat) (prop v : String) (j : Nat) :
    (p.setStyle i prop v).classAttr j = p.classAttr j := by
  unfold setStyle
  split
  · rename_i h
    simp only [classAttr, attr, get, Array.getD_eq_getD_getElem?, Array.getElem?_set]
    by_cases hj : i = j
    · subst hj
      simp only [if_true, Option.getD_some, Array.getElem?_eq_getElem h]
      split
      · rw [lookup_class_remove]
      · rw [lookup_class_put]
    · simp [hj]
  · rfl

@[simp] theorem classAttr_setAll (p : Page) (el : Nat) (as : List (String × String)) (j : Nat) :
    (p.setAll el as).classAttr j = p.classAttr j := by
  induction as generalizing p with
  | nil => rfl
  | cons a rest ih => simp [setAll, ih]

end Page

namespace Session

theorem classAttr_applyStyle (s : Session) (el : Nat) (type value unit : String) (j : Nat) :
    (s.applyStyle el type value unit).1.page.classAttr j = s.page.classAttr j := by
  unfold applyStyle
  dsimp only
  split
  · rfl
  · simp [Page.writeAll_eq_setAll]

/-- Applying a class writes styles and places listeners; it changes no class attribute. -/
@[simp] theorem classAttr_applyClass (s : Session) (el b : Nat) (c : String) (j : Nat) :
    (s.applyClass el b c).page.classAttr j = s.page.classAttr j := by
  apply applyClass_cases (P := fun t => t.page.classAttr j = s.page.classAttr j)
  · intros
    rfl
  · intro tok _
    rw [page_count, classAttr_applyStyle]
  · intros
    simp [bindResponsive, react_eq]
  · intros
    simp [bindHover]

@[simp] theorem classAttr_applyClasses (s : Session) (el : Nat) (cs : List String) (j : Nat) :
    (s.applyClasses el cs).1.page.classAttr j = s.page.classAttr j := by
  rw [applyClasses_eq]
  -- the new binding leaves the page alone
  apply List.foldlRecOn (motive := fun t : Session => t.page.classAttr j = s.page.classAttr j)
    _ _ (show s.newBinding.1.page.classAttr j = s.page.classAttr j from rfl)
  intro t ht c _
  rw [classAttr_applyClass, ht]

/-- The binding that applying classes makes stays open while they are applied. -/
theorem closed_applyClasses_self (s : Session) (el : Nat) (cs : List String) :
    ((s.applyClasses el cs).1.binding s.bindings.size).closed = false := by
  rw [applyClasses_eq]
  apply List.foldlRecOn (motive := fun t : Session => (t.binding s.bindings.size).closed = false)
    _ _ (by simp [binding_of_size_le (Nat.le_refl _)])
  intro t ht c _
  rw [closed_applyClass, ht]

/-- Writing colours to the page places no listener and changes no binding. -/
theorem Tracked.withPage {m : Nat} {s : Session} (hs : s.Tracked m) {p : Page}
    (hp : p.size = s.page.size) : ({ s with page := p } : Session).Tracked m :=
  hs.of_eq rfl rfl rfl rfl hp

end Session

namespace Batch

/-! ## Finding the files -/

/-- Adding one element to a list adds it to the list without duplicates, unless it is there. -/
theorem eraseDups_append_singleton {α : Type} [BEq α] [LawfulBEq α] (l : List α) (a : α) :
    (l ++ [a]).eraseDups = if a ∈ l then l.eraseDups else l.eraseDups ++ [a] := by
  rw [List.eraseDups_append]
  split
  case isTrue ha => simp [List.removeAll, ha]
  case isFalse ha => simp [List.removeAll, ha, List.eraseDups_cons]

theorem nodup_eraseDups {α : Type} [BEq α] [LawfulBEq α] (l : List α) : l.eraseDups.Nodup := by
  induction l using List.reverseRecOn with
  | nil => simp
  | append_singleton l a ih =>
    rw [eraseDups_append_singleton]
    split
    case isTrue => exact ih
    case isFalse ha =>
      have hnew : ∀ b ∈ l, b ≠ a := fun b hb hba => ha (hba ▸ hb)
      simpa [List.nodup_append] using And.intro ih hnew

section Discovery

variable (t : FileTree) (cwd base : String)

/-- The paths the patterns select under the base, in pattern order and then in the order each
pattern expands. -/
def selectedPaths (patterns : List String) : List String :=
  patterns.flatMap fun p => ((Glob.expand t cwd (underBase base p)).toOption).getD []

/-- The regular files among the selected paths, each at its first place. -/
def foundFiles (patterns : List String) : List String :=
  ((selectedPaths t cwd base patterns).filter fun m => t.kindOf cwd m == some false).eraseDups

/-- A discovery so far against the paths selected so far: it has seen each file among them once,
in order, kept those the ignore file does not skip and counted the others. -/
structure Found (ignore : Option IgnoreList) (sel : List String) (acc : Discovery × List String) :
    Prop where
  seen : acc.2 = (sel.filter fun m => t.kindOf cwd m == some false).eraseDups
  files : acc.1.files = acc.2.filter fun m => !ignoredBy ignore base m
  discovered : acc.1.discovered = acc.2.length
  skipped : acc.1.skipped = (acc.2.filter fun m => ignoredBy ignore base m).length

variable {t cwd base}

theorem Found.nil (ignore : Option IgnoreList) : Found t cwd base ignore [] (⟨[], 0, 0⟩, []) where
  seen := rfl
  files := rfl
  discovered := rfl
  skipped := rfl

/-- One more selected path is a file seen for the first time unless it was seen or is no file. -/
theorem seen_append {sel seen : List String}
    (h : seen = (sel.filter fun m => t.kindOf cwd m == some false).eraseDups) (m : String) :
    ((sel ++ [m]).filter fun m => t.kindOf cwd m == some false).eraseDups =
      if seen.contains m || t.kindOf cwd m != some false then seen else seen ++ [m] := by
  rw [List.filter_append]
  by_cases hfile : t.kindOf cwd m = some false
  case neg => simp [hfile, h]
  case pos =>
    rw [List.filter_singleton, hfile, beq_self_eq_true, cond_true, eraseDups_append_singleton]
    simp [h]

/-- Taking in the paths a pattern selected keeps the discovery against the paths selected. -/
theorem Found.takeMatches {ignore : Option IgnoreList} {sel : List String}
    {acc : Discovery × List String} (h : Found t cwd base ignore sel acc) (ms : List String) :
    Found t cwd base ignore (sel ++ ms) (takeMatches t cwd base ignore acc ms) := by
  induction ms generalizing sel acc with
  | nil => simpa [Batch.takeMatches] using h
  | cons m rest ih =>
    obtain ⟨d, seen⟩ := acc
    rw [show sel ++ m :: rest = (sel ++ [m]) ++ rest by simp, Batch.takeMatches]
    have hseen := seen_append h.seen m
    split
    case isTrue hskip =>
      exact ih { h with seen := by rw [hseen, if_pos hskip] }
    case isFalse hnew =>
      apply ih
      have hseen' : seen ++ [m] =
          ((sel ++ [m]).filter fun m => t.kindOf cwd m == some false).eraseDups := by
        rw [hseen, if_neg hnew]
      have hfiles : d.files = seen.filter fun m => !ignoredBy ignore base m := h.files
      have hdisc : d.discovered = seen.length := h.discovered
      have hskip : d.skipped = (seen.filter fun m => ignoredBy ignore base m).length := h.skipped
      -- the new file is counted, and kept or skipped
      refine ⟨hseen', ?_, ?_, ?_⟩ <;>
        cases hig : ignoredBy ignore base m <;> simp [hig, hfiles, hdisc, hskip]

/-- Expanding the patterns in turn and taking in what each selects keeps the discovery against
the paths they select. -/
theorem Found.foldlM {ignore : Option IgnoreList}
    {f : Discovery × List String → String → Except DiscoverError (Discovery × List String)}
    (hf : ∀ acc p acc', f acc p = .ok acc' → ∃ ms, Glob.expand t cwd (underBase base p) = .ok ms ∧
      acc' = Batch.takeMatches t cwd base ignore acc ms)
    (patterns : List String) {sel : List String} {acc acc' : Discovery × List String}
    (h : Found t cwd base ignore sel acc) (hrun : patterns.foldlM f acc = .ok acc') :
    Found t cwd base ignore (sel ++ selectedPaths t cwd base patterns) acc' := by
  induction patterns generalizing sel acc with
  | nil =>
    cases hrun
    simpa [selectedPaths] using h
  | cons p ps ih =>
    rw [List.foldlM_cons] at hrun
    cases hfp : f acc p with
    | error e =>
      rw [hfp] at hrun
      cases hrun
    | ok a =>
      rw [hfp] at hrun
      obtain ⟨ms, hms, rfl⟩ := hf acc p a hfp
      simpa [selectedPaths, hms, Except.toOption] using ih (h.takeMatches ms) hrun

/-- What discovery finds: the files among the selected paths, each once in the order found, kept
unless the ignore file skips them; all are counted as discovered, the skipped ones as skipped. -/
theorem discover_eq {patterns : List String} {d : Discovery}
    (h : discover t cwd base patterns = .ok d) :
    d.files = (foundFiles t cwd base patterns).filter
        (fun m => !ignoredBy (ignoreFileOf t cwd base) base m) ∧
      d.discovered = (foundFiles t cwd base patterns).length ∧
      d.skipped = ((foundFiles t cwd base patterns).filter
        fun m => ignoredBy (ignoreFileOf t cwd base) base m).length := by
  unfold discover at h
  dsimp only at h
  generalize hrun : List.foldlM (m := Except DiscoverError) _ _ patterns = res at h
  cases res with
  | error e => cases h
  | ok acc =>
    have hd : acc.1 = d := by simpa [Except.map] using h
    subst hd
    -- each pattern's step expands it and takes in what it selects
    have hfound := Found.foldlM (fun acc p acc' hp => by
        split at hp
        case h_1 => cases hp
        case h_2 ms hms =>
          cases hp
          exact ⟨ms, hms, rfl⟩) patterns (Found.nil (ignoreFileOf t cwd base)) hrun
    have hseen : acc.2 = foundFiles t cwd base patterns := by simpa [foundFiles] using hfound.seen
    rw [hfound.files, hfound.discovered, hfound.skipped, hseen]
    exact ⟨rfl, rfl, rfl⟩

end Discovery

/-! ## One document -/

/-- What the counts of a document say of its page. Each element with a class attribute that is
not empty, in order, comes with the counts of the binding its classes made: those count every
class of the element once, inert or applied. The classes applied and ignored and the listeners
are sums over these elements, a hover class placing two listeners and a responsive class one; the
styled elements are those with an applied class or, with the colour pass, a colour to write. -/
def Counted (moreColor : Bool) (page : Page) (f : FileOutcome) : Prop :=
  ∃ bs : List (Nat × ModeCounts),
    bs.map (·.1) = (List.range page.size).filter (fun el => !(page.classAttr el).isEmpty) ∧
    (∀ p ∈ bs, p.2.inert + p.2.applied = (page.classNames p.1).length) ∧
    f.classesApplied = (bs.map (·.2.applied)).sum ∧
    f.classesIgnored = (bs.map (·.2.inert)).sum ∧
    f.listeners = (bs.map fun p => p.2.responsive + 2 * p.2.hover).sum ∧
    f.elementsStyled = bs.countP fun p =>
      0 < p.2.applied || (moreColor && !(colorWrites (page.classAttr p.1)).isEmpty)

/-- An element counts as styled once, whether a class applied or only a colour was written. -/
theorem styled_count (applied : Nat) (colored : Bool) :
    ((if applied > 0 then 1 else 0) + (if colored && applied == 0 then 1 else 0) : Nat) =
      if 0 < applied || colored then 1 else 0 := by
  cases colored <;> by_cases ha : applied = 0 <;> simp [ha]

/-- Tallying an element with classes applies them under a new binding, writes its colours when
asked, and adds the binding's counts. -/
theorem Tally.element_of_classes {mc : Bool} {t : Tally} {el : Nat}
    (h : (t.session.page.classAttr el).isEmpty = false) {u : Session}
    (hu : u = (t.session.applyElement el).1) :
    t.element mc el =
      { session := if mc then { u with page := u.page.setAll el (colorWrites (u.page.classAttr el)) }
          else u
        styled := t.styled + ((if (u.binding t.session.bindings.size).counts.applied > 0 then 1 else 0) +
          (if (mc && !(colorWrites (u.page.classAttr el)).isEmpty) &&
            (u.binding t.session.bindings.size).counts.applied == 0 then 1 else 0))
        applied := t.applied + (u.binding t.session.bindings.size).counts.applied
        ignored := t.ignored + (u.binding t.session.bindings.size).counts.inert
        listeners := t.listeners + (u.binding t.session.bindings.size).listeners } := by
  subst hu
  unfold Tally.element
  rw [if_neg (by simp [h])]
  cases mc <;>
    simp only [Session.applyElement, Session.applyClasses_eq, Page.moreColor, Bool.false_eq_true,
      ↓reduceIte, Bool.false_and, Bool.true_and] <;>
    rfl

/-- The tallies of a page's elements so far against the page as read: the session keeps the
binding invariant, the elements and their class attributes, and each counter is a sum over the
elements with classes styled so far, each with its binding's counts. -/
structure Tallied (moreColor : Bool) (page : Page) (m : Nat) (t : Tally) (els : List Nat)
    (bs : List (Nat × ModeCounts)) : Prop where
  tracked : t.session.Tracked m
  size : t.session.page.size = page.size
  classAttr : ∀ el, t.session.page.classAttr el = page.classAttr el
  elements : bs.map (·.1) = els.filter fun el => !(page.classAttr el).isEmpty
  total : ∀ p ∈ bs, p.2.inert + p.2.applied = (page.classNames p.1).length
  applied : t.applied = (bs.map (·.2.applied)).sum
  ignored : t.ignored = (bs.map (·.2.inert)).sum
  listeners : t.listeners = (bs.map fun p => p.2.responsive + 2 * p.2.hover).sum
  styled : t.styled = bs.countP fun p =>
    0 < p.2.applied || (moreColor && !(colorWrites (page.classAttr p.1)).isEmpty)

theorem Tallied.start (mc : Bool) (reg : Registry) (bps : BreakpointTable) (w : Option Float)
    (page : Page) : Tallied mc page 0 ⟨Session.start reg bps w page, 0, 0, 0, 0⟩ [] [] where
  tracked := Session.tracked_start reg bps w page
  size := rfl
  classAttr _ := rfl
  elements := rfl
  total := by simp
  applied := rfl
  ignored := rfl
  listeners := rfl
  styled := rfl

/-- Tallying one more element of the page keeps the tallies against the page: an element with
classes adds its binding's counts, one without is passed over. -/
theorem Tallied.element {mc : Bool} {page : Page} {m : Nat} {t : Tally} {els : List Nat}
    {bs : List (Nat × ModeCounts)} (h : Tallied mc page m t els bs) {el : Nat}
    (hel : el < page.size) : ∃ bs', Tallied mc page m (t.element mc el) (els ++ [el]) bs' := by
  by_cases he : (page.classAttr el).isEmpty
  case pos =>
    have hskip : t.element mc el = t := by
      unfold Tally.element
      rw [if_pos (by rw [h.classAttr]; exact he)]
    rw [hskip]
    exact ⟨bs, { h with elements := by simp [h.elements, he] }⟩
  case neg =>
    have hcls : (t.session.page.classAttr el).isEmpty = false := by simpa [h.classAttr] using he
    obtain ⟨u, hu_def⟩ : ∃ u, u = (t.session.applyElement el).1 := ⟨_, rfl⟩
    rw [Tally.element_of_classes hcls hu_def]
    set bd := u.binding t.session.bindings.size with hbd
    -- the element's classes, applied under the new binding
    have hu : u.Tracked m := by
      rw [hu_def]
      exact h.tracked.applyClasses (by rw [h.size]; exact hel) _
    have hattr : ∀ j, u.page.classAttr j = page.classAttr j := fun j => by
      simp [hu_def, Session.applyElement, h.classAttr]
    have hsize : u.page.size = page.size := by simp [hu_def, Session.applyElement, h.size]
    have hlisten : bd.listeners = bd.counts.responsive + 2 * bd.counts.hover :=
      hu.counted _ (by rw [hu_def]; exact Session.closed_applyClasses_self _ _ _)
    have htotal : bd.counts.inert + bd.counts.applied = (page.classNames el).length := by
      have hnames : t.session.page.classNames el = page.classNames el := by
        simp only [Page.classNames, h.classAttr]
      rw [hbd, hu_def, Session.applyElement, ← hnames]
      exact (Session.counts_applyClasses t.session el _).2
    -- the colour pass writes styles only
    have hcolor : ∀ c : Bool,
        let s' := if c then { u with page := u.page.setAll el (colorWrites (u.page.classAttr el)) }
          else u
        s'.Tracked m ∧ s'.page.size = page.size ∧ ∀ j, s'.page.classAttr j = page.classAttr j := by
      intro c
      cases c
      case false => exact ⟨hu, hsize, hattr⟩
      case true => exact ⟨hu.withPage (by simp), by simp [hsize], by simp [hattr]⟩
    obtain ⟨ht', hsize', hattr'⟩ := hcolor mc
    refine ⟨bs ++ [(el, bd.counts)], ht', hsize', hattr', ?_, ?_, ?_, ?_, ?_, ?_⟩
    · simp [List.filter_append, h.elements, he]
    · intro p hp
      rcases List.mem_append.1 hp with hp | hp
      · exact h.total p hp
      · rw [List.mem_singleton.1 hp]
        exact htotal
    · simp [h.applied]
    · simp [h.ignored]
    · simp [h.listeners, hlisten]
    · rw [styled_count]
      simp [List.countP_append, h.styled, hattr]

/-- Tallying elements in turn keeps the tallies against the page. -/
theorem Tallied.foldl {mc : Bool} {page : Page} {m : Nat} {t : Tally} {els : List Nat}
    {bs : List (Nat × ModeCounts)} (h : Tallied mc page m t els bs) (rest : List Nat)
    (hrest : ∀ el ∈ rest, el < page.size) :
    ∃ bs', Tallied mc page m (rest.foldl (Tally.element mc) t) (els ++ rest) bs' := by
  induction rest generalizing t els bs with
  | nil => exact ⟨bs, by simpa using h⟩
  | cons el rest ih =>
    obtain ⟨bs', h'⟩ := h.element (hrest el (by simp))
    simpa using ih h' (fun e he => hrest e (by simp [he]))

/-- Tallying every element of a page from a fresh session counts as `Counted` says. -/
theorem Counted.of_tally {mc : Bool} {page : Page} {tally : Tally} (reg : Registry)
    (bps : BreakpointTable) (w : Option Float)
    (htally : tally = (List.range page.size).foldl (Tally.element mc)
      ⟨Session.start reg bps w page, 0, 0, 0, 0⟩)
    {f : FileOutcome} (hf : f.elementsStyled = tally.styled ∧ f.classesApplied = tally.applied ∧
      f.classesIgnored = tally.ignored ∧ f.listeners = tally.listeners) :
    Counted mc page f := by
  obtain ⟨bs, h⟩ := (Tallied.start mc reg bps w page).foldl (List.range page.size)
    (fun _ => List.mem_range.1)
  subst htally
  obtain ⟨hstyled, happlied, hignored, hlisteners⟩ := hf
  exact ⟨bs, by simpa using h.elements, h.total, happlied.trans h.applied,
    hignored.trans h.ignored, hlisteners.trans h.listeners, hstyled.trans h.styled⟩

/-- The classes a document counts, applied or ignored, are the classes of its elements with a
class attribute. -/
theorem Counted.classes_eq {mc : Bool} {page : Page} {f : FileOutcome} (h : Counted mc page f) :
    f.classesApplied + f.classesIgnored =
      (((List.range page.size).filter fun el => !(page.classAttr el).isEmpty).map
        fun el => (page.classNames el).length).sum := by
  obtain ⟨bs, hels, htotal, happlied, hignored, -⟩ := h
  rw [happlied, hignored, ← hels, List.map_map, ← List.sum_map_add]
  congr 1
  apply List.map_congr_left
  intro p hp
  have := htotal p hp
  simp only [Function.comp_apply]
  omega

/-- What styling one document gives: an outcome under its path; on a dry run the tree as it
was and no file written; and, when it succeeds, counts of the page read from the file. -/
theorem applyFile_spec (cfg : ApplyConfig) (reg : Registry) (t : FileTree) (cwd path : String) :
    (applyFile cfg reg t cwd path).2.1.path = path ∧
      (cfg.dryRun = true →
        (applyFile cfg reg t cwd path).1 = t ∧ (applyFile cfg reg t cwd path).2.1.output = "") ∧
      (cfg.outputDir = "" → (applyFile cfg reg t cwd path).1 = t) ∧
      ((applyFile cfg reg t cwd path).2.1.error = none → ∃ text page,
        t.fileText cwd path = some text ∧ Page.load text = .ok page ∧
          Counted cfg.moreColor page (applyFile cfg reg t cwd path).2.1) := by
  unfold applyFile
  split
  case h_1 => simp
  case h_2 text htext =>
    split
    case h_1 => simp
    case h_2 page hpage =>
      extract_lets blank bps s0 tally counted
      -- what is written after the tally does not change the counts
      have htally : (List.range page.size).foldl (Tally.element cfg.moreColor)
          ⟨Session.start reg (cfg.breakpoints.getD BreakpointTable.defaults)
            (some cfg.windowWidth) page, 0, 0, 0, 0⟩ = tally := rfl
      clear_value tally
      have hread : ∀ f : FileOutcome, f.elementsStyled = tally.styled →
          f.classesApplied = tally.applied → f.classesIgnored = tally.ignored →
          f.listeners = tally.listeners → ∃ text page, t.fileText cwd path = some text ∧
            Page.load text = .ok page ∧ Counted cfg.moreColor page f :=
        fun f h1 h2 h3 h4 =>
          ⟨text, page, htext, hpage, Counted.of_tally reg _ _ htally.symm ⟨h1, h2, h3, h4⟩⟩
      -- the declared styles and the hover pass change only the page written
      split
      extract_lets s2 log html
      split
      case isTrue hdry =>
        exact ⟨rfl, fun _ => ⟨rfl, rfl⟩, fun _ => rfl, fun _ => hread _ rfl rfl rfl rfl⟩
      case isFalse hdry =>
        split
        case isTrue hout =>
          exact ⟨rfl, fun h => absurd h hdry, fun _ => rfl, fun _ => hread _ rfl rfl rfl rfl⟩
        case isFalse hout =>
          have hwrite : cfg.outputDir ≠ "" := fun h => hout (by simp [h])
          have hfailed : ∀ {e : String} {P : Prop}, some e = none → P := fun h => nomatch h
          -- the output directory is made, then the file written; either can fail
          split
          case h_1 => exact ⟨rfl, fun h => absurd h hdry, fun _ => rfl, hfailed⟩
          case h_2 =>
            split
            case h_1 => exact ⟨rfl, fun h => absurd h hdry, fun h => absurd h hwrite, hfailed⟩
            case h_2 =>
              exact ⟨rfl, fun h => absurd h hdry, fun h => absurd h hwrite,
                fun _ => hread _ rfl rfl rfl rfl⟩

/-! ## The run -/

@[simp] theorem files_record (r : ApplyResult) (f : FileOutcome) :
    (r.record f).files = r.files ++ [f] := by
  unfold ApplyResult.record
  split <;> rfl

@[simp] theorem filesDiscovered_record (r : ApplyResult) (f : FileOutcome) :
    (r.record f).filesDiscovered = r.filesDiscovered := by
  unfold ApplyResult.record
  split <;> rfl

@[simp] theorem filesSkipped_record (r : ApplyResult) (f : FileOutcome) :
    (r.record f).filesSkipped = r.filesSkipped := by
  unfold ApplyResult.record
  split <;> rfl

/-- The counters of a result against the counts of its discovery and its outcomes: the files
discovered and skipped are as counted; the documents that succeeded are counted as scanned, and
written when they name an output; each that failed gives an error after its path, in order; and
the element, class and listener counts are sums over those that succeeded. -/
structure Recorded (discovered skipped : Nat) (r : ApplyResult) : Prop where
  discovered : r.filesDiscovered = discovered
  skipped : r.filesSkipped = skipped
  scanned : r.filesScanned = r.files.countP (·.error.isNone)
  errors : r.errors = r.files.filterMap fun f => f.error.map (f.path ++ ": " ++ ·)
  written : r.filesWritten = r.files.countP fun f => f.error.isNone && !f.output.isEmpty
  styled : r.elementsStyled = ((r.files.filter (·.error.isNone)).map (·.elementsStyled)).sum
  applied : r.classesApplied = ((r.files.filter (·.error.isNone)).map (·.classesApplied)).sum
  ignored : r.classesIgnored = ((r.files.filter (·.error.isNone)).map (·.classesIgnored)).sum
  listeners : r.listeners = ((r.files.filter (·.error.isNone)).map (·.listeners)).sum

theorem Recorded.start (discovered skipped : Nat) :
    Recorded discovered skipped ⟨discovered, 0, skipped, 0, 0, 0, 0, 0, [], []⟩ :=
  ⟨rfl, rfl, rfl, rfl, rfl, rfl, rfl, rfl, rfl⟩

/-- Recording an outcome keeps the counters against the outcomes. -/
theorem Recorded.record {discovered skipped : Nat} {r : ApplyResult}
    (h : Recorded discovered skipped r) (f : FileOutcome) :
    Recorded discovered skipped (r.record f) := by
  unfold ApplyResult.record
  -- a failed document adds its error, one that succeeded adds its counts
  cases he : f.error <;> refine ⟨?_, ?_, ?_, ?_, ?_, ?_, ?_, ?_, ?_⟩ <;>
    simp [he, h.discovered, h.skipped, h.scanned, h.errors, h.written, h.styled, h.applied,
      h.ignored, h.listeners]

/-- A run so far against the documents styled so far, in order: the counters against the
outcomes, one outcome for each document under its path, and the counts of each document that
succeeded read from a page as `Counted` says. While nothing is written (a dry run, or no output
directory), the tree stays as it was, and every document is read from it; on a dry run no
outcome names a file written. -/
structure Ran (t : FileTree) (cwd : String) (cfg : ApplyConfig) (discovered skipped : Nat)
    (ps : List String) (tree : FileTree) (r : ApplyResult) : Prop where
  recorded : Recorded discovered skipped r
  paths : r.files.map (·.path) = ps
  counted : ∀ f ∈ r.files, f.error = none → ∃ tree₀ text page,
    tree₀.fileText cwd f.path = some text ∧ Page.load text = .ok page ∧
      Counted cfg.moreColor page f ∧ (cfg.dryRun = true ∨ cfg.outputDir = "" → tree₀ = t)
  unwritten : cfg.dryRun = true ∨ cfg.outputDir = "" → tree = t
  dry : cfg.dryRun = true → ∀ f ∈ r.files, f.output = ""

/-- Styling one more document and recording its outcome keeps the run against the documents. -/
theorem Ran.record_applyFile {t : FileTree} {cwd : String} {cfg : ApplyConfig} {n k : Nat}
    {ps : List String} {tree : FileTree} {r : ApplyResult} (h : Ran t cwd cfg n k ps tree r)
    (reg : Registry) (path : String) :
    Ran t cwd cfg n k (ps ++ [path]) (applyFile cfg reg tree cwd path).1
      (r.record (applyFile cfg reg tree cwd path).2.1) := by
  obtain ⟨hpath, hdry, hout, hread⟩ := applyFile_spec cfg reg tree cwd path
  -- the tree is written only when neither a dry run nor without output directory
  have hkept : cfg.dryRun = true ∨ cfg.outputDir = "" → (applyFile cfg reg tree cwd path).1 = t := by
    rintro (hd | ho)
    · rw [(hdry hd).1, h.unwritten (.inl hd)]
    · rw [hout ho, h.unwritten (.inr ho)]
  refine ⟨h.recorded.record _, by simp [h.paths, hpath], ?_, hkept, ?_⟩
  · intro f hf herr
    rw [files_record, List.mem_append, List.mem_singleton] at hf
    rcases hf with hf | rfl
    · exact h.counted f hf herr
    · obtain ⟨text, page, htext, hpage, hc⟩ := hread herr
      exact ⟨tree, text, page, by rw [hpath]; exact htext, hpage, hc, h.unwritten⟩
  · intro hd f hf
    rw [files_record, List.mem_append, List.mem_singleton] at hf
    rcases hf with hf | rfl
    · exact h.dry hd f hf
    · exact (hdry hd).2

/-- Styling documents in turn keeps the run against them; `step` is the run's step, which styles
a document and records its outcome. -/
theorem Ran.foldl {t : FileTree} {cwd : String} {cfg : ApplyConfig} {n k : Nat} {reg : Registry}
    {step : FileTree × ApplyResult × List LogEntry → String → FileTree × ApplyResult × List LogEntry}
    {paths : List String} {acc res : FileTree × ApplyResult × List LogEntry}
    (hres : paths.foldl step acc = res)
    (hstep : ∀ tree r log path, (step (tree, r, log) path).1 = (applyFile cfg reg tree cwd path).1 ∧
      (step (tree, r, log) path).2.1 = r.record (applyFile cfg reg tree cwd path).2.1)
    {ps : List String} (h : Ran t cwd cfg n k ps acc.1 acc.2.1) :
    Ran t cwd cfg n k (ps ++ paths) res.1 res.2.1 := by
  subst hres
  induction paths generalizing ps acc with
  | nil => simpa using h
  | cons path rest ih =>
    obtain ⟨tree, r, log⟩ := acc
    have hnext := h.record_applyFile reg path
    rw [← (hstep tree r log path).1, ← (hstep tree r log path).2] at hnext
    simpa using ih hnext

/-- What the result of a run says: the documents are the files the patterns select
(`foundFiles`) that the ignore file of the base does not skip, each once and in the order found;
all the files found are counted as discovered and those the ignore file skips as skipped; and the
run's counters and each document's counts are as `Ran` says. So the files discovered are those
skipped and those styled, and a dry run writes nothing. -/
structure Accounted (t : FileTree) (cwd : String) (cfg : ApplyConfig) (t' : FileTree)
    (r : ApplyResult) : Prop where
  ran : Ran t cwd cfg (foundFiles t cwd cfg.baseDir cfg.includes).length
    ((foundFiles t cwd cfg.baseDir cfg.includes).filter
      fun m => ignoredBy (ignoreFileOf t cwd cfg.baseDir) cfg.baseDir m).length
    ((foundFiles t cwd cfg.baseDir cfg.includes).filter
      fun m => !ignoredBy (ignoreFileOf t cwd cfg.baseDir) cfg.baseDir m) t' r
  nodup : (r.files.map (·.path)).Nodup
  discovered : r.filesDiscovered = r.filesSkipped + r.files.length
  dryRun : cfg.dryRun = true → r.filesWritten = 0

/-- A run gives a result exactly when a registry is configured and the files can be found. -/
theorem applyAll_ok_iff (t : FileTree) (cwd : String) (cfg : ApplyConfig) :
    (∃ res, applyAll t cwd cfg = .ok res) ↔
      cfg.registry.isSome ∧ ∃ d, discover t cwd cfg.baseDir cfg.includes = .ok d := by
  unfold applyAll
  split
  case h_1 hreg => simp [hreg]
  case h_2 reg hreg =>
    split
    case h_1 e he => simp [he]
    case h_2 d hd => simp [hd, hreg]

end Batch

end UtilityStyles
