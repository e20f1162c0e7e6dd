import UtilityStyles.Proofs.Reactions
import Mathlib
/-!
# Resolving against a live element

A type's declarations are worked out in one pass before any of them is written: each target
formats its value against the values that the earlier targets of the pass produced, and against
the element's style for the properties they did not touch. Writing the declarations afterwards
leaves the same page as writing each target at once, formatted against the element's style as
the earlier writes left it (`Page.writeTargets`).

The two ways of reading differ. The pass reads a value as it was produced; the element holds it
trimmed, or not at all when it is blank. They agree because only the chain kinds read, and a
chain trims the text it extends (`Target.format_congr`).

## Main definitions

* `Page.writeTargets` : targets written one at a time against the live element.

## Main statements

* `Text.trimBlank_trimBlank` : trimming twice trims once.
* `Target.format_congr` : a target's text reads its property's value only up to blanks.
* `Page.writeAll_resolve` : the pass and the one-at-a-time writes leave the same page.
* `applyStyle_page_eq_writeTargets` : so does writing a type at once.
-/

namespace UtilityStyles

open UtilityStyles.Text (trimBlank)

/-! ## Trimming -/

namespace Text

/-- A trimmed text starts and ends with a character that is not blank. -/
theorem trimBlank_ends (s : String) :
    (∀ c ∈ (trimBlank s).toList.head?, isBlank c = false) ∧
      (∀ c ∈ (trimBlank s).toList.getLast?, isBlank c = false) := by
  set A := s.toList.dropWhile isBlank with hA
  have hR : (trimBlank s).toList = A.rdropWhile isBlank := by
    simp [trimBlank, List.rdropWhile, hA]
  rw [hR]
  constructor
  · intro c hc
    -- what is left after the trailing blanks is a start of `A`, whose head is not blank
    obtain ⟨t, ht⟩ := List.rdropWhile_prefix (p := isBlank) (l := A)
    have hne : A.rdropWhile isBlank ≠ [] := by
      rintro h
      simp [h] at hc
    have hcA : A.head? = some c := by
      rw [← ht, List.head?_append]
      simp [Option.mem_def.1 hc]
    have hAne : A ≠ [] := by
      rintro h
      simp [h] at hcA
    obtain rfl : A.head hAne = c := by simpa [List.head?_eq_some_head hAne] using hcA
    exact List.head_dropWhile_not isBlank hAne
  · intro c hc
    have hne : A.rdropWhile isBlank ≠ [] := by
      rintro h
      simp [h] at hc
    obtain rfl : (A.rdropWhile isBlank).getLast hne = c := by
      simpa [List.getLast?_eq_some_getLast hne] using hc
    simpa using List.rdropWhile_last_not (p := isBlank) (l := A) hne

/-- A text that starts and ends with a character that is not blank is its own trimming. -/
theorem trimBlank_eq_self {s : String} (hh : ∀ c ∈ s.toList.head?, isBlank c = false)
    (hl : ∀ c ∈ s.toList.getLast?, isBlank c = false) : trimBlank s = s := by
  have hfront : s.toList.dropWhile isBlank = s.toList := by
    cases h : s.toList with
    | nil => rfl
    | cons c r => simp [hh c (by simp [h])]
  have hback : s.toList.reverse.dropWhile isBlank = s.toList.reverse := by
    cases h : s.toList.reverse with
    | nil => rfl
    | cons c r =>
      have : c ∈ s.toList.getLast? := by simp [← List.head?_reverse, h]
      simp [hl c this]
  simp [trimBlank, hfront, hback]

@[simp] theorem trimBlank_trimBlank (s : String) : trimBlank (trimBlank s) = trimBlank s :=
  trimBlank_eq_self (trimBlank_ends s).1 (trimBlank_ends s).2

end Text

/-! ## What a target reads -/

/-- A target's text reads only its own property's value, and that only up to blanks. -/
theorem Target.format_congr (t : Target) (value unit : String) {r r' : String → String}
    (h : trimBlank (r t.property) = trimBlank (r' t.property)) :
    t.format value unit r = t.format value unit r' := by
  unfold Target.format appendFunc
  cases t.kind <;> simp only [h]

theorem readThrough_nil (current : String → String) : readThrough [] current = current := by
  funext q
  rfl

/-- A pass reads a property at the last value it produced for it. -/
theorem readThrough_snoc (pending : List Write) (w : Write) (current : String → String)
    (q : String) :
    readThrough (pending ++ [w]) current q =
      if w.property = q then w.value else readThrough pending current q := by
  unfold readThrough
  by_cases hq : w.property = q <;> simp [hq]

/-! ## Writes on the page -/

namespace Page

/-- The targets of a type written one at a time: each formats its value against the element's
style as the earlier writes left it, and is set at once. -/
def writeTargets (p : Page) (el : Nat) (value unit : String) : List Target → Page
  | [] => p
  | t :: rest =>
    (p.setStyle el t.property (t.format value unit (p.styleValue el))).writeTargets el value unit
      rest

theorem writeAll_append (p : Page) (el : Nat) (ws ws' : List Write) :
    p.writeAll el (ws ++ ws') = (p.writeAll el ws).writeAll el ws' := by
  induction ws generalizing p with
  | nil => rfl
  | cons w rest ih => simp only [List.cons_append, writeAll, ih]

@[simp] theorem size_writeAll (p : Page) (el : Nat) (ws : List Write) :
    (p.writeAll el ws).size = p.size := by
  rw [writeAll_eq_setAll, size_setAll]

theorem setStyle_of_size_le {p : Page} {i : Nat} (h : p.size ≤ i) (prop v : String) :
    p.setStyle i prop v = p := by
  unfold setStyle
  rw [dif_neg (Nat.not_lt.2 (by simpa only [size] using h))]

/-- Nothing is written to an element the page does not have. -/
theorem writeAll_of_size_le {p : Page} {el : Nat} (h : p.size ≤ el) (ws : List Write) :
    p.writeAll el ws = p := by
  rw [writeAll_eq_setAll]
  induction ws with
  | nil => rfl
  | cons w rest ih => simpa [setAll, setStyle_of_size_le h] using ih

theorem writeTargets_of_size_le {p : Page} {el : Nat} (h : p.size ≤ el) (value unit : String)
    (ts : List Target) : p.writeTargets el value unit ts = p := by
  induction ts with
  | nil => rfl
  | cons t rest ih => simpa [writeTargets, setStyle_of_size_le h] using ih

end Page

/-- The pass from some point on, against the element as the pass's writes so far left it: as
long as what the pass reads agrees with the element up to blanks, writing what the pass produces
is writing its targets one at a time. -/
theorem writeAll_resolveTargets {p : Page} {el : Nat} (hel : el < p.size) (value unit : String)
    (ts : List Target) (done : List Write)
    (hagree : ∀ q, trimBlank (readThrough done (p.styleValue el) q) =
      trimBlank ((p.writeAll el done).styleValue el q)) :
    p.writeAll el (resolveTargets value unit (p.styleValue el) done ts) =
      (p.writeAll el done).writeTargets el value unit ts := by
  induction ts generalizing done with
  | nil => rfl
  | cons t rest ih =>
    set w : Write := ⟨t.property, t.format value unit (readThrough done (p.styleValue el)), false⟩
      with hw
    have hwrite : p.writeAll el (done ++ [w]) =
        (p.writeAll el done).setStyle el t.property w.value := by
      rw [Page.writeAll_append]
      rfl
    -- the written value is read back trimmed, which is how the pass reads it up to blanks
    have hagree' : ∀ q, trimBlank (readThrough (done ++ [w]) (p.styleValue el) q) =
        trimBlank ((p.writeAll el (done ++ [w])).styleValue el q) := by
      intro q
      rw [hwrite, readThrough_snoc, Page.styleValue_setStyle]
      by_cases hq : t.property = q
      · subst hq
        simp [hw, hel]
      · simp [hw, hq, Ne.symm hq, hagree q]
    have hvalue : w.value = t.format value unit ((p.writeAll el done).styleValue el) :=
      t.format_congr value unit (hagree t.property)
    show p.writeAll el (resolveTargets value unit (p.styleValue el) (done ++ [w]) rest) = _
    rw [ih (done ++ [w]) hagree', hwrite, hvalue]
    rfl

/-- Resolving a type against an element and writing the declarations leaves the same page as
writing the type's targets one at a time, each formatted against the element as it then is. -/
theorem Page.writeAll_resolve (reg : Registry) {type : String} (htype : isCustomType type = false)
    (value unit : String) (p : Page) (el : Nat) :
    p.writeAll el (reg.resolve type value unit (p.styleValue el)) =
      p.writeTargets el value unit ((reg.targets? type).getD []) := by
  by_cases hel : el < p.size
  · unfold Registry.resolve
    rw [htype, if_neg Bool.false_ne_true]
    cases reg.targets? type with
    | none => rfl
    | some ts =>
      exact writeAll_resolveTargets hel value unit ts [] fun q => by rw [readThrough_nil]; rfl
  · rw [writeAll_of_size_le (Nat.not_lt.1 hel), writeTargets_of_size_le (Nat.not_lt.1 hel)]

/-- Writing a type, value and unit at once writes the declarations resolved against the element;
a type that resolves to nothing leaves the page as it was. -/
theorem Session.page_applyStyle (s : Session) (el : Nat) (type value unit : String) :
    (s.applyStyle el type value unit).1.page =
      s.page.writeAll el (s.registry.resolve type value unit (s.page.styleValue el)) := by
  unfold Session.applyStyle
  dsimp only
  split
  · rename_i h
    rw [List.isEmpty_iff.1 h]
    rfl
  · rfl

/-- Writing a type's declarations at once, as resolved in one pass against the element, leaves
the page that writing the type's targets one at a time leaves, each formatted against the
element as the earlier writes left it. -/
theorem applyStyle_page_eq_writeTargets (s : Session) (el : Nat) {type : String}
    (htype : isCustomType type = false) (value unit : String) :
    (s.applyStyle el type value unit).1.page =
      s.page.writeTargets el value unit ((s.registry.targets? type).getD []) := by
  rw [Session.page_applyStyle, Page.writeAll_resolve s.registry htype]

theorem applyStyle_page_eq_writeTargets_blur :
    isCustomType "blur" = false ∧
      let page : Page := ⟨[], #[⟨⟨"", "div"⟩, none, [], ⟨[("filter", "sepia(1)")]⟩⟩]⟩
      let s := Session.start ⟨[("blur", ["ftr", "filter"])]⟩ default none page
      (s.applyStyle 0 "blur" "2" "px").1.page =
        s.page.writeTargets 0 "2" "px" ((s.registry.targets? "blur").getD []) :=
  ⟨by simp [isCustomType], applyStyle_page_eq_writeTargets _ 0 (by simp [isCustomType]) "2" "px"⟩

end UtilityStyles
