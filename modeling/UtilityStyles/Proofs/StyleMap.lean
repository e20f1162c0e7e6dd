import UtilityStyles.Resolver.Session
/-!
# Inline styles as maps

What writing a property does to the styles of a page, seen as a map from element and property to
value. One write makes the property hold its trimmed value (an empty value removes it) and leaves
every other property of every element alone. A run of writes to several elements is described
by the pairs it covers: on a covered pair the run decides the value, whatever the page held
before; elsewhere the page keeps its values.

## Main statements

* `keyedValue_map`, `keyedValue_filter`, `keyedValue_append_new` : lookups in keyed lists, which
  inline styles and listener tables both are.
* `InlineStyle.get_set`, `Page.styleValue_setStyle` : one write.
* `Page.styleValue_setEach_of_not_covers`, `Page.styleValue_setEach_congr` : a run of writes.
* `Page.styleValue_setEach_setEach` : a run that covers all an earlier run covered hides it.
-/

namespace UtilityStyles

open UtilityStyles.Text (trimBlank)

section KeyedList

variable {β : Type}

/-- The value a list of keyed entries holds under a key: the first entry's, `d` when there is
none. Inline styles and listener tables both read their entries this way. -/
def keyedValue (l : List (String × β)) (k : String) (d : β) : β :=
  ((l.find? (·.1 == k)).map (·.2)).getD d

theorem keyedValue_cons (e : String × β) (l : List (String × β)) (k : String) (d : β) :
    keyedValue (e :: l) k d = if e.1 = k then e.2 else keyedValue l k d := by
  by_cases h : e.1 = k <;> simp [keyedValue, h]

theorem keyedValue_of_not_any {l : List (String × β)} {k : String} (h : ¬ l.any (·.1 == k))
    (d : β) : keyedValue l k d = d := by
  induction l with
  | nil => rfl
  | cons e l ih =>
    simp only [List.any_cons, Bool.or_eq_true, not_or, beq_iff_eq] at h
    rw [keyedValue_cons, if_neg h.1, ih (by simpa using h.2)]

theorem keyedValue_filter (l : List (String × β)) (k k' : String) (d : β) :
    keyedValue (l.filter (·.1 != k)) k' d = if k' = k then d else keyedValue l k' d := by
  induction l with
  | nil => simp [keyedValue]
  | cons e l ih =>
    by_cases he : e.1 = k
    · simp [he, ih, keyedValue_cons]
      grind
    · simp [he, ih, keyedValue_cons]
      grind

theorem keyedValue_append_new {l : List (String × β)} {k : String} (v : β) (k' : String) (d : β)
    (h : ¬ l.any (·.1 == k)) :
    keyedValue (l ++ [(k, v)]) k' d = if k' = k then v else keyedValue l k' d := by
  induction l with
  | nil =>
    by_cases hk : k' = k
    · simp [keyedValue, hk]
    · simp [keyedValue, hk]
      grind
  | cons e l ih =>
    simp only [List.any_cons, Bool.or_eq_true, not_or] at h
    simp only [List.cons_append, keyedValue_cons, ih h.2]
    grind

/-- Replacing the entries of one key: `f` puts `v` under `k` and leaves other entries alone. -/
theorem keyedValue_map {l : List (String × β)} {k : String} {v : β} {f : String × β → String × β}
    (hk : ∀ e, e.1 = k → f e = (k, v)) (hother : ∀ e, e.1 ≠ k → f e = e) (k' : String) (d : β) :
    keyedValue (l.map f) k' d =
      if k' = k ∧ l.any (·.1 == k) then v else keyedValue l k' d := by
  induction l with
  | nil => simp [keyedValue]
  | cons e l ih =>
    rw [List.map_cons, keyedValue_cons, keyedValue_cons, ih]
    by_cases he : e.1 = k
    · rw [hk e he]
      by_cases hk' : k' = k
      · simp [hk', he]
      · simp [hk', he]; grind
    · rw [hother e he]
      simp [he]
      grind

end KeyedList

namespace Css.InlineStyle

theorem get_eq_keyedValue (s : InlineStyle) (q : String) : s.get q = keyedValue s.decls q "" :=
  rfl

/-- Setting a property makes it hold the trimmed value and keeps every other property. -/
@[simp] theorem get_set (s : InlineStyle) (p v q : String) :
    (s.set p v).get q = if q = p then trimBlank v else s.get q := by
  simp only [get_eq_keyedValue]
  unfold set
  dsimp only
  split
  · rename_i h
    split
    · rename_i hv
      rw [keyedValue_filter, String.isEmpty_iff.1 hv]
    · rw [keyedValue_map (k := p) (v := trimBlank v) (fun e he => by simp [he])
        (fun e he => by simp [he])]
      simp [h]
  · rename_i h
    split
    · rename_i hv
      by_cases hq : q = p
      · subst hq
        rw [keyedValue_of_not_any h, if_pos rfl, String.isEmpty_iff.1 hv]
      · rw [if_neg hq]
    · rw [keyedValue_append_new _ _ _ h]

end Css.InlineStyle

/-- Sets properties of several elements in turn, each element with its list of writes. -/
def Page.setEach (p : Page) : List (Nat × List (String × String)) → Page
  | [] => p
  | (el, as) :: rest => (p.setAll el as).setEach rest

/-- Whether a run of writes sets property `prop` of element `el`. -/
def Page.Covers (writes : List (Nat × List (String × String))) (el : Nat) (prop : String) : Prop :=
  ∃ w ∈ writes, w.1 = el ∧ prop ∈ w.2.map Prod.fst

namespace Page

@[simp] theorem size_setStyle (p : Page) (i : Nat) (prop v : String) :
    (p.setStyle i prop v).size = p.size := by
  unfold setStyle size
  split <;> simp

theorem styleValue_of_size_le {p : Page} {i : Nat} (h : p.size ≤ i) (q : String) :
    p.styleValue i q = "" := by
  simp [styleValue, get, Array.getD, size] at *
  simp [Nat.not_lt.2 h]
  rfl

/-- One write: the written property of the written element holds the trimmed value (when the
element exists); every other pair keeps its value. -/
@[simp] theorem styleValue_setStyle (p : Page) (i : Nat) (prop v : String) (j : Nat) (q : String) :
    (p.setStyle i prop v).styleValue j q =
      if j = i ∧ q = prop then (if i < p.size then trimBlank v else "")
      else p.styleValue j q := by
  unfold setStyle
  split
  · rename_i h
    simp only [styleValue, get, Array.getD, Array.size_set]
    by_cases hj : j = i
    · subst hj
      simp [h, size]
    · simp [hj, Array.getElem_set]
      grind
  · rename_i h
    by_cases hj : j = i ∧ q = prop
    · obtain ⟨rfl, rfl⟩ := hj
      simp [size, h, styleValue_of_size_le (Nat.not_lt.1 h)]
    · simp [hj]

@[simp] theorem size_setAll (p : Page) (el : Nat) (as : List (String × String)) :
    (p.setAll el as).size = p.size := by
  induction as generalizing p with
  | nil => rfl
  | cons a rest ih => simp [setAll, ih]

theorem styleValue_setAll_of_not_mem {p : Page} {el j : Nat} {as : List (String × String)}
    {q : String} (h : j ≠ el ∨ q ∉ as.map Prod.fst) :
    (p.setAll el as).styleValue j q = p.styleValue j q := by
  induction as generalizing p with
  | nil => rfl
  | cons a rest ih =>
    have hrest : j ≠ el ∨ q ∉ rest.map Prod.fst := by
      rcases h with h | h
      · exact .inl h
      · exact .inr fun hm => h (List.mem_cons_of_mem _ hm)
    have hhead : ¬ (j = el ∧ q = a.1) := by
      rintro ⟨rfl, rfl⟩
      rcases h with h | h
      · exact h rfl
      · exact h (by simp)
    simp only [setAll]
    rw [ih hrest, styleValue_setStyle, if_neg hhead]

/-- On a property it writes, a list of writes decides the value whatever the page held. -/
theorem styleValue_setAll_congr {p p' : Page} {el : Nat} {as : List (String × String)}
    {q : String} (hq : q ∈ as.map Prod.fst) (hsize : p.size = p'.size) :
    (p.setAll el as).styleValue el q = (p'.setAll el as).styleValue el q := by
  induction as generalizing p p' with
  | nil => simp at hq
  | cons a rest ih =>
    simp only [setAll]
    by_cases hr : q ∈ rest.map Prod.fst
    · exact ih hr (by simp [hsize])
    · have ha : q = a.1 := by simpa [hr] using hq
      rw [styleValue_setAll_of_not_mem (.inr hr), styleValue_setAll_of_not_mem (.inr hr)]
      simp [ha, hsize]

/-- Writing each property of a list to a value of its own: the listed properties of the element
hold their trimmed values (when the element exists), every other pair keeps its value. -/
theorem styleValue_setAll_map (p : Page) (el : Nat) (ks : List String) (f : String → String)
    (j : Nat) (q : String) :
    (p.setAll el (ks.map fun k => (k, f k))).styleValue j q =
      if j = el ∧ q ∈ ks then (if el < p.size then trimBlank (f q) else "")
      else p.styleValue j q := by
  induction ks generalizing p with
  | nil => simp [setAll]
  | cons k rest ih =>
    simp only [List.map_cons, setAll]
    rw [ih, size_setStyle, styleValue_setStyle]
    by_cases hj : j = el
    · subst hj
      by_cases hq : q = k
      · subst hq
        simp
      · simp [hq]
    · simp [hj]

@[simp] theorem size_setEach (p : Page) (writes : List (Nat × List (String × String))) :
    (p.setEach writes).size = p.size := by
  induction writes generalizing p with
  | nil => rfl
  | cons w rest ih => simp [setEach, ih]

theorem setEach_append (p : Page) (ws ws' : List (Nat × List (String × String))) :
    p.setEach (ws ++ ws') = (p.setEach ws).setEach ws' := by
  induction ws generalizing p with
  | nil => rfl
  | cons w rest ih => simp [setEach, ih]

theorem styleValue_setEach_of_not_covers {p : Page} {writes : List (Nat × List (String × String))}
    {j : Nat} {q : String} (h : ¬ Covers writes j q) :
    (p.setEach writes).styleValue j q = p.styleValue j q := by
  induction writes generalizing p with
  | nil => rfl
  | cons w rest ih =>
    have hrest : ¬ Covers rest j q := fun ⟨w', hw', hw⟩ => h ⟨w', List.mem_cons_of_mem _ hw', hw⟩
    have hw : j ≠ w.1 ∨ q ∉ w.2.map Prod.fst := by
      by_cases hj : j = w.1
      · exact .inr fun hq => h ⟨w, List.mem_cons_self, hj.symm, hq⟩
      · exact .inl hj
    simp only [setEach]
    rw [ih hrest, styleValue_setAll_of_not_mem hw]

/-- On a pair it covers, a run of writes decides the value whatever the page held. -/
theorem styleValue_setEach_congr {p p' : Page} {writes : List (Nat × List (String × String))}
    {j : Nat} {q : String} (h : Covers writes j q) (hsize : p.size = p'.size) :
    (p.setEach writes).styleValue j q = (p'.setEach writes).styleValue j q := by
  induction writes generalizing p p' with
  | nil => obtain ⟨w, hw, -⟩ := h; simp at hw
  | cons w rest ih =>
    simp only [setEach]
    by_cases hr : Covers rest j q
    · exact ih hr (by simp [hsize])
    · obtain ⟨w', hw', hj, hq⟩ := h
      have hw'' : w' = w := by
        rcases List.mem_cons.1 hw' with h | h
        · exact h
        · exact absurd ⟨w', h, hj, hq⟩ hr
      subst hw'' hj
      rw [styleValue_setEach_of_not_covers hr, styleValue_setEach_of_not_covers hr]
      exact styleValue_setAll_congr hq hsize

/-- Writes of the values a page already holds (up to blanks) leave its styles as they were. -/
theorem styleValue_setAll_of_agree {p : Page} {el : Nat} {as : List (String × String)}
    (h : ∀ a ∈ as, trimBlank a.2 = p.styleValue el a.1) (j : Nat) (q : String) :
    (p.setAll el as).styleValue j q = p.styleValue j q := by
  induction as generalizing p with
  | nil => rfl
  | cons a rest ih =>
    -- the first write keeps every value, so the others still agree with the page it leaves
    have hfirst : ∀ j q, (p.setStyle el a.1 a.2).styleValue j q = p.styleValue j q := by
      intro j q
      rw [styleValue_setStyle]
      split
      · rename_i hjq
        obtain ⟨rfl, rfl⟩ := hjq
        split
        · exact h a List.mem_cons_self
        · rename_i hs
          exact (styleValue_of_size_le (Nat.not_lt.1 hs) _).symm
      · rfl
    simp only [setAll]
    rw [ih fun b hb => (h b (List.mem_cons_of_mem _ hb)).trans (hfirst _ _).symm, hfirst]

theorem styleValue_setEach_of_agree {p : Page} {writes : List (Nat × List (String × String))}
    (h : ∀ w ∈ writes, ∀ a ∈ w.2, trimBlank a.2 = p.styleValue w.1 a.1) (j : Nat) (q : String) :
    (p.setEach writes).styleValue j q = p.styleValue j q := by
  induction writes generalizing p with
  | nil => rfl
  | cons w rest ih =>
    have hfirst := styleValue_setAll_of_agree (h w List.mem_cons_self)
    simp only [setEach]
    rw [ih fun w' hw' a ha => (h w' (List.mem_cons_of_mem _ hw') a ha).trans (hfirst _ _).symm,
      hfirst]

/-- A run of writes that covers every pair an earlier run covered leaves the same styles as if
the earlier run had not happened. -/
theorem styleValue_setEach_setEach (p : Page) {ws ws' : List (Nat × List (String × String))}
    (h : ∀ el q, Covers ws el q → Covers ws' el q) (j : Nat) (q : String) :
    ((p.setEach ws).setEach ws').styleValue j q = (p.setEach ws').styleValue j q := by
  by_cases hc : Covers ws' j q
  · exact styleValue_setEach_congr hc (size_setEach p ws)
  · rw [styleValue_setEach_of_not_covers hc, styleValue_setEach_of_not_covers hc,
      styleValue_setEach_of_not_covers fun h' => hc (h _ _ h')]

end Page

end UtilityStyles
