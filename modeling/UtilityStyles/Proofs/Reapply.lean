import UtilityStyles.Proofs.LiveWrites
import UtilityStyles.Proofs.Explain
import UtilityStyles.Proofs.ClassMatch
/-!
# Applying a class again

Applying an immediate class writes its declarations at once. Applied again to the same element,
a class whose targets all overwrite changes nothing more: all its declarations carry one text,
since the kind and the function of an overwriting target are the type's (`Target.format_eq_of_not_appends`),
and the style already holds each property at that text (`Css.InlineStyle.Holds`). A class whose
targets all append grows instead: every application adds the class's segments `fn(valueunit)`
to each chain it writes, after what the chain held.

## Main definitions

* `Css.InlineStyle.Holds` : a style holds a property at a value.
* `Target.segment`, `segmentsOn`, `chainText` : what a chain target adds, and a chain's text.

## Main statements

* `Css.InlineStyle.foldl_set_idem` : setting properties to one value twice sets them once.
* `Target.format_eq_of_not_appends` : the overwriting targets of a type write the same text.
* `Page.styleValue_writeTargets_chain` : one application on a chain.
* `apply_overwrites_once_appends_linearly` : applying a class again, for each of the two kinds.
-/

namespace UtilityStyles

open UtilityStyles.Class (parseClass)
open UtilityStyles.Css (InlineStyle)
open UtilityStyles.Text (trimBlank)

/-! ## Setting a property it already holds -/

namespace Css.InlineStyle

/-- A style holds a property at a value: every declaration of the property has that value, and
the property is declared exactly when the value is not empty. -/
def Holds (s : InlineStyle) (q v : String) : Prop :=
  (∀ d ∈ s.decls, d.1 = q → d.2 = v) ∧ s.decls.any (·.1 == q) = !v.isEmpty

/-- Setting a property to a value the style already holds it at (once trimmed) changes
nothing. -/
theorem set_of_holds {s : InlineStyle} {q w : String} (h : s.Holds q (trimBlank w)) :
    s.set q w = s := by
  obtain ⟨hval, hany⟩ := h
  unfold set
  dsimp only
  split
  · rename_i hq
    have hv : (trimBlank w).isEmpty = false := by simpa [hq] using hany.symm
    rw [if_neg (by simp [hv])]
    -- every declaration of `q` already has the value
    cases s with
    | mk decls =>
      rw [InlineStyle.mk.injEq]
      conv_rhs => rw [← List.map_id decls]
      refine List.map_congr_left fun d hd => ?_
      by_cases hdq : d.1 = q
      · simp only [hdq, beq_self_eq_true, if_true, id]
        exact Prod.ext hdq.symm (hval d hd hdq).symm
      · simp [hdq]
  · rename_i hq
    have hv : (trimBlank w).isEmpty = true := by simpa [hq] using hany.symm
    rw [if_pos hv]

/-- After setting a property, the style holds it at the trimmed value. -/
theorem holds_set (s : InlineStyle) (q w : String) : (s.set q w).Holds q (trimBlank w) := by
  unfold set
  dsimp only
  split
  · rename_i hq
    split
    · rename_i hv
      refine ⟨fun d hd hdq => ?_, ?_⟩
      · simp [List.mem_filter, hdq] at hd
      · simp [hv, List.any_filter]
    · rename_i hv
      refine ⟨fun d hd hdq => ?_, ?_⟩
      · obtain ⟨d₀, -, rfl⟩ := List.mem_map.1 hd
        by_cases h₀ : d₀.1 = q <;> simp_all
      · simp only [List.any_map, Function.comp_def, hv, Bool.not_false]
        simpa [apply_ite] using hq
  · rename_i hq
    split
    · rename_i hv
      refine ⟨fun d hd hdq => ?_, by rw [Bool.eq_false_iff.2 hq, hv]; rfl⟩
      exact absurd (List.any_eq_true.2 ⟨d, hd, by simp [hdq]⟩) hq
    · rename_i hv
      refine ⟨fun d hd hdq => ?_, by simp [hv]⟩
      rcases List.mem_append.1 hd with hd | hd
      · exact absurd (List.any_eq_true.2 ⟨d, hd, by simp [hdq]⟩) hq
      · simp_all

/-- Setting another property keeps what the style holds. -/
theorem Holds.set_of_ne {s : InlineStyle} {q v : String} (h : s.Holds q v) {q' : String}
    (hq : q' ≠ q) (w : String) : (s.set q' w).Holds q v := by
  obtain ⟨hval, hany⟩ := h
  unfold set
  dsimp only
  split
  · split
    · refine ⟨fun d hd hdq => hval d (List.mem_filter.1 hd).1 hdq, ?_⟩
      -- the removed declarations are of `q'`, not of `q`
      have hf : (fun d : String × String => (d.1 != q') && (d.1 == q)) = (·.1 == q) := by
        funext d
        by_cases hdq : d.1 = q
        · simp [hdq, Ne.symm hq]
        · simp [hdq]
      rw [← hany, List.any_filter, hf]
    · refine ⟨fun d hd hdq => ?_, ?_⟩
      · obtain ⟨d₀, hd₀, rfl⟩ := List.mem_map.1 hd
        by_cases h₀ : d₀.1 = q'
        · simp only [h₀, beq_self_eq_true, if_true] at hdq
          exact absurd hdq hq
        · simp only [beq_iff_eq, h₀, if_false] at hdq ⊢
          exact hval d₀ hd₀ hdq
      · -- the rewritten declarations keep their properties
        have hf : ((·.1 == q) ∘ fun d : String × String =>
            if d.1 == q' then (d.1, trimBlank w) else d) = (·.1 == q) := by
          funext d
          by_cases h₀ : d.1 = q' <;> simp [h₀]
        rw [← hany, List.any_map, hf]
  · split
    · exact ⟨hval, hany⟩
    · refine ⟨fun d hd hdq => ?_, ?_⟩
      · rcases List.mem_append.1 hd with hd | hd
        · exact hval d hd hdq
        · simp_all
      · simp [hany, hq]

/-- Setting other properties, one after another, keeps what the style holds. -/
theorem Holds.foldl_set_of_not_mem {s : InlineStyle} {q v : String} (h : s.Holds q v)
    {qs : List String} (hq : q ∉ qs) (w : String) :
    (qs.foldl (fun st q' => st.set q' w) s).Holds q v := by
  induction qs generalizing s with
  | nil => exact h
  | cons q' rest ih =>
    simp only [List.mem_cons, not_or] at hq
    exact ih (h.set_of_ne (Ne.symm hq.1) w) hq.2

/-- Setting properties one after another to one value: afterwards the style holds each of them
at the trimmed value. -/
theorem holds_foldl_set (s : InlineStyle) (qs : List String) (w : String) :
    ∀ q ∈ qs, (qs.foldl (fun st q' => st.set q' w) s).Holds q (trimBlank w) := by
  induction qs generalizing s with
  | nil => simp
  | cons q rest ih =>
    intro q' hq'
    simp only [List.foldl_cons]
    by_cases hr : q' ∈ rest
    · exact ih _ q' hr
    · -- the last write to `q'` is the first, and the later ones are to other properties
      obtain rfl : q' = q := by simpa [hr] using hq'
      exact (holds_set s q' w).foldl_set_of_not_mem hr w

variable {w : String}

/-- Setting properties the style already holds at the value changes nothing. -/
theorem foldl_set_of_holds {s : InlineStyle} {qs : List String}
    (h : ∀ q ∈ qs, s.Holds q (trimBlank w)) : qs.foldl (fun st q' => st.set q' w) s = s := by
  induction qs with
  | nil => rfl
  | cons q rest ih =>
    rw [List.foldl_cons, set_of_holds (h q List.mem_cons_self)]
    exact ih fun q' hq' => h q' (List.mem_cons_of_mem _ hq')

/-- Setting properties to one value twice sets them once. -/
theorem foldl_set_idem (s : InlineStyle) (qs : List String) (w : String) :
    qs.foldl (fun st q => st.set q w) (qs.foldl (fun st q => st.set q w) s) =
      qs.foldl (fun st q => st.set q w) s :=
  foldl_set_of_holds (holds_foldl_set s qs w)

end Css.InlineStyle

/-! ## What the targets of a type write -/

/-- What a chain target adds to its chain for a value and unit: `fn(valueunit)`. -/
def Target.segment (t : Target) (value unit : String) : String :=
  t.func ++ "(" ++ value ++ unit ++ ")"

namespace Target

/-- A chain target extends its property's value by its segment. -/
theorem format_of_appends {t : Target} (ht : t.kind.appends = true) (value unit : String)
    (current : String → String) :
    t.format value unit current = appendFunc (current t.property) (t.segment value unit) := by
  unfold format segment
  cases h : t.kind <;> simp_all [TargetKind.appends]

/-- The kind and the function that a type gives the targets of its plain properties, the
properties that are not chain tags. -/
def plainShape (type : String) : TargetKind × String :=
  if type == "grid-row" || type == "grid-col" then (.gridTemplate, "")
  else if type == "auto-grid-row" || type == "auto-grid-col" then (.gridAutoFit, "")
  else if type == "flex-auto" then (.flexShorthand, "1 1")
  else if type == "initial-flex" then (.flexShorthand, "0 1")
  else (.direct, "")

/-- An overwriting target takes its kind and its function from the type alone: only the chain
tags compile to other kinds, and those append. -/
theorem shape_of_not_appends {type p : String} {t : Target} (h : compileTarget type p = some t)
    (ha : t.kind.appends = false) : (t.kind, t.func) = plainShape type := by
  unfold compileTarget at h
  by_cases hf : (p == "ftr" || p == "filter") = true
  · rw [if_pos hf] at h
    cases h
    simp [TargetKind.appends] at ha
  rw [if_neg hf] at h
  by_cases hb : (p == "bFt" || p == "backdropFilter" || p == "backdrop-filter") = true
  · rw [if_pos hb] at h
    obtain ⟨fn, -, rfl⟩ := Option.map_eq_some_iff.1 h
    simp [TargetKind.appends] at ha
  rw [if_neg hb] at h
  by_cases ht : (p == "tra" || p == "transform") = true
  · rw [if_pos ht] at h
    obtain ⟨fn, -, rfl⟩ := Option.map_eq_some_iff.1 h
    simp [TargetKind.appends] at ha
  rw [if_neg ht] at h
  unfold plainShape
  split_ifs at h ⊢ <;> cases h <;> rfl

/-- The overwriting targets of a type write the same text, whatever they read. -/
theorem format_eq_of_not_appends {type p p' : String} {t t' : Target}
    (h : compileTarget type p = some t) (h' : compileTarget type p' = some t')
    (ha : t.kind.appends = false) (ha' : t'.kind.appends = false) (value unit : String)
    (r r' : String → String) : t.format value unit r = t'.format value unit r' := by
  have hshape := (shape_of_not_appends h ha).trans (shape_of_not_appends h' ha').symm
  simp only [Prod.mk.injEq] at hshape
  unfold format
  rw [hshape.1, hshape.2]
  cases hk : t'.kind <;> simp_all [TargetKind.appends]

/-- What a chain target adds comes from the type (a filter) or from the chain's table. -/
theorem func_of_appends {type p : String} {t : Target} (h : compileTarget type p = some t)
    (ha : t.kind.appends = true) :
    t.func = type ∨ t.func ∈ (backdropFunctions ++ transformFunctions).map Prod.snd := by
  unfold compileTarget at h
  by_cases hf : (p == "ftr" || p == "filter") = true
  · rw [if_pos hf] at h
    cases h
    exact .inl rfl
  rw [if_neg hf] at h
  -- a backdrop or transform function is one of its table's
  have hlookup : ∀ {tab : List (String × String)} {fn : String}, tab.lookup type = some fn →
      fn ∈ tab.map Prod.snd := by
    intro tab fn hfn
    obtain ⟨l₁, l₂, rfl, -⟩ := List.lookup_eq_some_iff.1 hfn
    simp
  by_cases hb : (p == "bFt" || p == "backdropFilter" || p == "backdrop-filter") = true
  · rw [if_pos hb] at h
    obtain ⟨fn, hfn, rfl⟩ := Option.map_eq_some_iff.1 h
    exact .inr (by simpa using Or.inl (hlookup hfn))
  rw [if_neg hb] at h
  by_cases ht : (p == "tra" || p == "transform") = true
  · rw [if_pos ht] at h
    obtain ⟨fn, hfn, rfl⟩ := Option.map_eq_some_iff.1 h
    exact .inr (by simpa using Or.inr (hlookup hfn))
  rw [if_neg ht] at h
  -- the plain properties compile to overwriting kinds
  dsimp only at h
  split_ifs at h <;> cases h <;> simp [TargetKind.appends] at ha

end Target

/-! ## Chains -/

namespace Text

/-- A text that is not empty and neither starts nor ends with a blank: what trimming keeps
whole. -/
def Solid (s : String) : Prop :=
  s.toList ≠ [] ∧ (∀ c ∈ s.toList.head?, isBlank c = false) ∧
    ∀ c ∈ s.toList.getLast?, isBlank c = false

theorem Solid.trimBlank_eq {s : String} (h : Solid s) : trimBlank s = s :=
  trimBlank_eq_self h.2.1 h.2.2

theorem solid_trimBlank {s : String} (h : trimBlank s ≠ "") : Solid (trimBlank s) :=
  ⟨fun h' => h (String.toList_eq_nil_iff.1 h'), trimBlank_ends s⟩

/-- Two solid texts joined by a space make a solid text. -/
theorem Solid.append_space {a b : String} (ha : Solid a) (hb : Solid b) :
    Solid (a ++ " " ++ b) := by
  have hsplit : (a ++ " " ++ b).toList = a.toList ++ (' ' :: b.toList) := by simp
  refine ⟨by simp [hsplit], ?_, ?_⟩
  · rw [hsplit, List.head?_append_of_ne_nil _ ha.1]
    exact ha.2.1
  · rw [hsplit, ← List.singleton_append, ← List.append_assoc,
      List.getLast?_append_of_ne_nil _ hb.1]
    exact hb.2.2

/-- Solid texts joined by spaces make a solid text. -/
theorem solid_intercalate : ∀ {l : List String}, l ≠ [] → (∀ x ∈ l, Solid x) →
    Solid (" ".intercalate l)
  | [], h, _ => absurd rfl h
  | [a], _, h => by simpa using h a (by simp)
  | a :: b :: rest, _, h => by
    rw [String.intercalate_cons_cons]
    exact (h a (by simp)).append_space
      (solid_intercalate (by simp) fun x hx => h x (List.mem_cons_of_mem _ hx))

theorem intercalate_append_singleton (sep : String) : ∀ {l : List String}, l ≠ [] →
    ∀ x, sep.intercalate (l ++ [x]) = sep.intercalate l ++ sep ++ x
  | [], h, _ => absurd rfl h
  | [a], _, x => by simp [String.intercalate_cons_cons]
  | a :: b :: rest, _, x => by
    rw [List.cons_append, List.cons_append, String.intercalate_cons_cons, ← List.cons_append,
      intercalate_append_singleton sep (by simp) x, String.intercalate_cons_cons]
    simp only [String.append_assoc]

end Text

open Text (Solid)

/-- A chain's text: the trimmed text it starts from, left out when empty, then the segments,
separated by single spaces. -/
def chainText (init : String) (segs : List String) : String :=
  " ".intercalate ((if trimBlank init = "" then [] else [trimBlank init]) ++ segs)

section Chains

variable {init : String} {segs : List String}

theorem chainText_nil (init : String) : chainText init [] = trimBlank init := by
  unfold chainText
  split
  · rename_i h
    rw [h]
    rfl
  · simp

theorem solid_chainParts (hsegs : ∀ x ∈ segs, Solid x) :
    ∀ x ∈ (if trimBlank init = "" then [] else [trimBlank init]) ++ segs, Solid x := by
  intro x hx
  rcases List.mem_append.1 hx with hx | hx
  · split at hx
    · simp at hx
    · rename_i h
      obtain rfl : x = trimBlank init := by simpa using hx
      exact Text.solid_trimBlank h
  · exact hsegs x hx

/-- The text of a chain of solid segments is already trimmed. -/
theorem trimBlank_chainText (hsegs : ∀ x ∈ segs, Solid x) :
    trimBlank (chainText init segs) = chainText init segs := by
  unfold chainText
  by_cases hp : (if trimBlank init = "" then [] else [trimBlank init]) ++ segs = []
  · rw [hp]
    rfl
  · exact (Text.solid_intercalate hp (solid_chainParts hsegs)).trimBlank_eq

/-- Appending a segment to a value that trims to a chain's text extends the chain. -/
theorem trimBlank_appendFunc_chain (hsegs : ∀ x ∈ segs, Solid x) {seg : String}
    (hseg : Solid seg) {x : String} (hx : trimBlank x = chainText init segs) :
    trimBlank (appendFunc x seg) = chainText init (segs ++ [seg]) := by
  unfold appendFunc
  dsimp only
  rw [hx]
  unfold chainText
  rw [← List.append_assoc]
  by_cases hp : (if trimBlank init = "" then [] else [trimBlank init]) ++ segs = []
  · -- an empty chain: the segment stands alone
    rw [hp, List.nil_append, String.intercalate_singleton]
    simpa using hseg.trimBlank_eq
  · have hsolid := Text.solid_intercalate hp (solid_chainParts hsegs)
    have hne : (" ".intercalate
        ((if trimBlank init = "" then [] else [trimBlank init]) ++ segs)).isEmpty = false := by
      rw [Bool.eq_false_iff]
      intro h
      exact hsolid.1 (String.toList_eq_nil_iff.2 (String.isEmpty_iff.1 h))
    rw [hne, if_neg Bool.false_ne_true, ← Text.intercalate_append_singleton _ hp]
    exact (Text.solid_intercalate (by simp) fun y hy => by
      rcases List.mem_append.1 hy with hy | hy
      · exact solid_chainParts hsegs y hy
      · obtain rfl : y = seg := by simpa using hy
        exact hseg).trimBlank_eq

end Chains

/-- A segment is solid when its function does not start with a blank. -/
theorem Target.solid_segment (t : Target)
    (h : ∀ c ∈ t.func.toList.head?, Text.isBlank c = false) (value unit : String) :
    Solid (t.segment value unit) := by
  have hsplit : (t.segment value unit).toList =
      t.func.toList ++ ('(' :: (value.toList ++ unit.toList)) ++ [')'] := by
    simp [Target.segment]
  refine ⟨by simp [hsplit], ?_, ?_⟩
  · rw [hsplit, List.append_assoc]
    cases hf : t.func.toList with
    | nil => simp; decide
    | cons c r => simpa [hf] using h
  · rw [hsplit, List.getLast?_append_of_ne_nil _ (by simp)]
    simp
    decide

/-- The segments that the targets landing on a property add, in target order. -/
def segmentsOn (ts : List Target) (q value unit : String) : List String :=
  (ts.filter (·.property == q)).map (·.segment value unit)

theorem segmentsOn_cons_self (t : Target) (rest : List Target) (value unit : String) :
    segmentsOn (t :: rest) t.property value unit =
      t.segment value unit :: segmentsOn rest t.property value unit := by
  simp [segmentsOn]

theorem segmentsOn_cons_of_ne {t : Target} {q : String} (h : t.property ≠ q)
    (rest : List Target) (value unit : String) :
    segmentsOn (t :: rest) q value unit = segmentsOn rest q value unit := by
  simp [segmentsOn, h]

/-- One run of chain targets on an element: on a property whose value trims to a chain's text,
the targets landing there extend the chain by their segments; a property no target lands on
keeps its value. -/
theorem Page.styleValue_writeTargets_chain {p : Page} {el : Nat} (hel : el < p.size)
    {value unit : String} {ts : List Target} (hts : ∀ t ∈ ts, t.kind.appends = true)
    (hsolid : ∀ t ∈ ts, Solid (t.segment value unit)) {q init : String} {segs : List String}
    (hsegs : ∀ x ∈ segs, Solid x) (hq : trimBlank (p.styleValue el q) = chainText init segs) :
    (p.writeTargets el value unit ts).styleValue el q =
      if segmentsOn ts q value unit = [] then p.styleValue el q
      else chainText init (segs ++ segmentsOn ts q value unit) := by
  induction ts generalizing p segs with
  | nil => simp [segmentsOn, Page.writeTargets]
  | cons t rest ih =>
    have hts' : ∀ t ∈ rest, t.kind.appends = true := fun t' ht' => hts t' (by simp [ht'])
    have hsolid' : ∀ t ∈ rest, Solid (t.segment value unit) :=
      fun t' ht' => hsolid t' (by simp [ht'])
    simp only [Page.writeTargets]
    rw [t.format_of_appends (hts t (by simp))]
    by_cases htq : t.property = q
    · -- this target extends the chain, and the rest extend it further
      subst htq
      have hsegs' : ∀ x ∈ segs ++ [t.segment value unit], Solid x := by
        intro x hx
        rcases List.mem_append.1 hx with hx | hx
        · exact hsegs x hx
        · obtain rfl : x = t.segment value unit := by simpa using hx
          exact hsolid t (by simp)
      have hv : (p.setStyle el t.property (appendFunc (p.styleValue el t.property)
          (t.segment value unit))).styleValue el t.property =
          chainText init (segs ++ [t.segment value unit]) := by
        rw [Page.styleValue_setStyle, if_pos ⟨rfl, rfl⟩, if_pos hel]
        exact trimBlank_appendFunc_chain hsegs (hsolid t (by simp)) hq
      rw [ih (by simpa using hel) hts' hsolid' hsegs' (by rw [hv, trimBlank_chainText hsegs']),
        hv]
      rw [segmentsOn_cons_self, if_neg (List.cons_ne_nil _ _)]
      by_cases hr : segmentsOn rest t.property value unit = []
      · rw [if_pos hr, hr]
      · rw [if_neg hr, List.append_assoc, List.singleton_append]
    · have hv : (p.setStyle el t.property (appendFunc (p.styleValue el t.property)
          (t.segment value unit))).styleValue el q = p.styleValue el q := by
        rw [Page.styleValue_setStyle, if_neg fun h => htq h.2.symm]
      rw [ih (by simpa using hel) hts' hsolid' hsegs (by rw [hv, hq]), hv,
        segmentsOn_cons_of_ne htq]

/-! ## Applying again -/

theorem Css.InlineStyle.applyWrites_eq_foldl (s : InlineStyle) (ws : List Write) :
    s.applyWrites ws = (ws.map fun x => (x.target, x.value)).foldl (fun st a => st.set a.1 a.2) s := by
  rw [applyWrites, List.foldl_map]

/-- When every target writes one text, the pass writes it to each target's property. -/
theorem resolveTargets_pairs {value unit w : String} {current : String → String} :
    ∀ (done : List Write) (ts : List Target), (∀ t ∈ ts, ∀ r, t.format value unit r = w) →
      (resolveTargets value unit current done ts).map (fun x => (x.target, x.value)) =
        done.map (fun x => (x.target, x.value)) ++ ts.map fun t => (t.property, w)
  | done, [], _ => by simp [resolveTargets]
  | done, t :: rest, h => by
    rw [resolveTargets, resolveTargets_pairs _ rest fun t' ht' => h t' (by simp [ht'])]
    simp [Write.target, h t List.mem_cons_self]

/-- The declarations of a custom class, or of a class whose targets all overwrite, set
properties to one text, the same whatever the element holds. -/
theorem Registry.resolve_uniform (reg : Registry) {type : String}
    (h : isCustomType type = true ∨ ∀ t ∈ (reg.targets? type).getD [], t.kind.appends = false)
    (value unit : String) : ∃ (qs : List String) (w : String), ∀ current : String → String,
      (reg.resolve type value unit current).map (fun x => (x.target, x.value)) =
        qs.map fun q => (q, w) := by
  by_cases hc : isCustomType type = true
  · refine ⟨[customPropertyOf type], value ++ unit, fun current => ?_⟩
    simp only [Registry.resolve, hc, if_true, List.map_cons, List.map_nil, Write.target,
      customPropertyOf_startsWith hc]
  have hts := h.resolve_left hc
  simp only [Registry.resolve, hc, Bool.false_eq_true, if_false]
  cases hr : reg.targets? type with
  | none => exact ⟨[], "", fun _ => rfl⟩
  | some ts =>
    rw [hr, Option.getD_some] at hts
    obtain ⟨ps, -, rfl⟩ := Option.map_eq_some_iff.1 hr
    -- the targets all write the text of the first of them
    cases hts' : compileTargets type ps with
    | nil => exact ⟨[], "", fun _ => rfl⟩
    | cons t₀ rest =>
      have hmem : ∀ t ∈ compileTargets type ps, ∃ p, compileTarget type p = some t :=
        fun t ht => by
          obtain ⟨p, -, hp⟩ := List.mem_filterMap.1 ht
          exact ⟨p, hp⟩
      obtain ⟨p₀, hp₀⟩ := hmem t₀ (by simp [hts'])
      refine ⟨(t₀ :: rest).map (·.property), t₀.format value unit fun _ => "", fun current => ?_⟩
      rw [resolveTargets_pairs [] _ fun t ht r => ?_, List.map_map]
      · rfl
      · obtain ⟨p, hp⟩ := hmem t (by simpa [hts'] using ht)
        exact Target.format_eq_of_not_appends hp hp₀ (hts t (by simpa [hts'] using ht))
          (hts t₀ (by simp [hts'])) value unit r _

namespace Session

theorem context_apply (s : Session) (el : Nat) (c : String) :
    (s.apply el c).1.context = s.context :=
  context_applyClasses s el [c]

theorem registry_apply (s : Session) (el : Nat) (c : String) :
    (s.apply el c).1.registry = s.registry := by
  simpa using congrArg Context.registry (context_apply s el c)

theorem modeOf_apply (s : Session) (el : Nat) (c : String) (tok : Token) :
    (s.apply el c).1.modeOf tok = s.modeOf tok := by
  simp only [modeOf, context_apply]

/-- Applying an immediate class writes its declarations, resolved against the element. -/
theorem page_apply_of_immediate (s : Session) (el : Nat) {c : String} {tok : Token}
    (hc : parseClass c = some tok) (hm : s.modeOf tok = .immediate) :
    (s.apply el c).1.page =
      s.page.writeAll el (s.registry.resolve tok.type tok.value tok.unit (s.page.styleValue el)) := by
  have hm' : s.newBinding.1.modeOf tok = .immediate := hm
  rw [apply_eq]
  show (s.newBinding.1.applyClass el s.bindings.size c).page = _
  rw [applyClass_of_immediate hc hm', page_count, page_applyStyle]
  rfl

/-- A class whose declarations set properties to one text: applied again, it leaves the element's
style as its first application left it. -/
theorem style_apply_apply_of_uniform {s : Session} (el : Nat) {c : String} {tok : Token}
    (hc : parseClass c = some tok) (hm : s.modeOf tok = .immediate)
    (h : isCustomType tok.type = true ∨
      ∀ t ∈ (s.registry.targets? tok.type).getD [], t.kind.appends = false) :
    (((s.apply el c).1.apply el c).1.page.get el).style = ((s.apply el c).1.page.get el).style := by
  obtain ⟨qs, w, hw⟩ := s.registry.resolve_uniform h tok.value tok.unit
  have h1 := page_apply_of_immediate s el hc hm
  have h2 := page_apply_of_immediate (s.apply el c).1 el hc ((modeOf_apply s el c tok).trans hm)
  rw [registry_apply] at h2
  by_cases hel : el < s.page.size
  · have hel1 : el < (s.apply el c).1.page.size := by rw [h1, Page.size_writeAll]; exact hel
    rw [h2, Page.style_writeAll hel1, h1, Page.style_writeAll hel,
      InlineStyle.applyWrites_eq_foldl, hw, InlineStyle.applyWrites_eq_foldl, hw, List.foldl_map,
      List.foldl_map]
    exact InlineStyle.foldl_set_idem _ qs w
  · rw [h2, Page.writeAll_of_size_le]
    rw [h1, Page.size_writeAll]
    exact Nat.not_lt.1 hel

section Iterate

variable (el : Nat) (c : String)

theorem context_iterate_apply (s : Session) (n : Nat) :
    ((fun s' : Session => (s'.apply el c).1)^[n] s).context = s.context := by
  induction n with
  | zero => rfl
  | succ n ih => rw [Function.iterate_succ_apply', context_apply, ih]

theorem size_iterate_apply (s : Session) (n : Nat) :
    ((fun s' : Session => (s'.apply el c).1)^[n] s).page.size = s.page.size := by
  induction n with
  | zero => rfl
  | succ n ih => rw [Function.iterate_succ_apply', ← ih]; exact page_size_applyClasses _ el [c]

/-- Each application of an immediate class that is not custom writes its targets one at a time. -/
theorem page_iterate_apply_succ {s : Session} {tok : Token} (hc : parseClass c = some tok)
    (hm : s.modeOf tok = .immediate) (hcustom : isCustomType tok.type = false) (n : Nat) :
    ((fun s' : Session => (s'.apply el c).1)^[n + 1] s).page =
      ((fun s' : Session => (s'.apply el c).1)^[n] s).page.writeTargets el tok.value tok.unit
        ((s.registry.targets? tok.type).getD []) := by
  have hctx := context_iterate_apply el c s n
  have hreg : ((fun s' : Session => (s'.apply el c).1)^[n] s).registry = s.registry := by
    simpa using congrArg Context.registry hctx
  have hm' : ((fun s' : Session => (s'.apply el c).1)^[n] s).modeOf tok = .immediate := by
    rw [modeOf, hctx]
    exact hm
  rw [Function.iterate_succ_apply', page_apply_of_immediate _ el hc hm', hreg,
    Page.writeAll_resolve _ hcustom]

end Iterate

end Session

/-! ## Segments of a class that is read -/

/-- A word character is not blank. -/
theorem Class.textBlank_of_isWordChar {c : Char} (h : Class.isWordChar c = true) :
    Text.isBlank c = false := by
  have hn : (48 ≤ c.toNat ∧ c.toNat ≤ 57) ∨ (65 ≤ c.toNat ∧ c.toNat ≤ 90) ∨
      (97 ≤ c.toNat ∧ c.toNat ≤ 122) ∨ c.toNat = 95 := by
    simp only [Class.isWordChar, Char.isAlphanum, Bool.or_eq_true, beq_iff_eq] at h
    rcases h with (h | h) | h
    · rcases Class.toNat_of_isAlpha h with h | h <;> omega
    · have := Class.toNat_of_isDigit h
      omega
    · subst h
      simp
  simp only [Text.isBlank, Bool.or_eq_false_iff, Bool.and_eq_false_iff, decide_eq_false_iff_not,
    beq_eq_false_iff_ne, ne_eq]
  omega

/-- The type of a class that is read starts with a word character, `-` or `[`, none of them
blank. -/
theorem type_head_of_parseClass {c : String} {tok : Token} (h : parseClass c = some tok) :
    ∀ ch ∈ tok.type.toList.head?, Text.isBlank ch = false := by
  obtain ⟨i, hi, -⟩ := Class.matchFrom_eq_some_iff.1 h
  obtain ⟨t, ht, htype⟩ : ∃ t, tok.type = String.ofList t ∧ Class.IsType t := by
    rcases Class.matchAt_eq_some_cases hi with ⟨p, r, ⟨t, v, u⟩, -, -, hm, rfl⟩ | ⟨⟨t, v, u⟩, hm, rfl⟩
    · obtain ⟨-, -, ht, -, -⟩ := Class.readTypeValue_sound hm
      exact ⟨t, rfl, ht⟩
    · obtain ⟨-, -, ht, -, -⟩ := Class.readTypeValue_sound hm
      exact ⟨t, rfl, ht⟩
  rw [ht, String.toList_ofList]
  intro ch hch
  rcases htype with (⟨d, x, rfl, hd, -⟩ | ⟨t₀, rfl, -⟩) | ⟨name, rfl, -, -⟩
  · obtain rfl : ch = d := by simpa using hch.symm
    exact Class.textBlank_of_isWordChar hd
  · obtain rfl : ch = '-' := by simpa using hch.symm
    decide
  · obtain rfl : ch = '[' := by simpa using hch.symm
    decide

/-- The segments that the chain targets of a class that is read add are solid. -/
theorem solid_segment_of_parseClass {c : String} {tok : Token} (hc : parseClass c = some tok)
    {reg : Registry} {t : Target} (ht : t ∈ (reg.targets? tok.type).getD [])
    (ha : t.kind.appends = true) (value unit : String) : Solid (t.segment value unit) := by
  apply t.solid_segment _ value unit
  -- the target is compiled from one of the type's properties
  obtain ⟨p, hp⟩ : ∃ p, compileTarget tok.type p = some t := by
    cases hr : reg.targets? tok.type with
    | none => simp [hr] at ht
    | some ts =>
      obtain ⟨ps, -, rfl⟩ := Option.map_eq_some_iff.1 hr
      rw [hr, Option.getD_some] at ht
      obtain ⟨p, -, hp⟩ := List.mem_filterMap.1 ht
      exact ⟨p, hp⟩
  rcases Target.func_of_appends hp ha with hf | hf
  · rw [hf]
    exact type_head_of_parseClass hc
  · have htab : ∀ f ∈ (backdropFunctions ++ transformFunctions).map Prod.snd,
        ∀ ch ∈ f.toList.head?, Text.isBlank ch = false := by
      simp [backdropFunctions, transformFunctions, Text.isBlank]
    exact htab _ hf

theorem flatten_replicate_succ {α : Type} (n : Nat) (l : List α) :
    (List.replicate (n + 1) l).flatten = (List.replicate n l).flatten ++ l := by
  rw [List.replicate_succ', List.flatten_append, List.flatten_singleton]

/-- Applied `n` times in a row, an immediate class whose targets all append leaves a property
that its targets land on at the chain of the property's starting value and `n` rounds of the
segments that land there; before any application the value trims to the empty round. -/
theorem Session.styleValue_iterate_apply_chain {s : Session} (el : Nat) {c : String}
    {tok : Token} (hc : parseClass c = some tok) (hm : s.modeOf tok = .immediate)
    (hcustom : isCustomType tok.type = false)
    (happ : ∀ t ∈ (s.registry.targets? tok.type).getD [], t.kind.appends = true)
    (hel : el < s.page.size) {q : String}
    (hq : segmentsOn ((s.registry.targets? tok.type).getD []) q tok.value tok.unit ≠ []) (n : Nat) :
    trimBlank (((fun s' : Session => (s'.apply el c).1)^[n] s).page.styleValue el q) =
        chainText (s.page.styleValue el q) (List.replicate n
          (segmentsOn ((s.registry.targets? tok.type).getD []) q tok.value tok.unit)).flatten ∧
      (0 < n → ((fun s' : Session => (s'.apply el c).1)^[n] s).page.styleValue el q =
        chainText (s.page.styleValue el q) (List.replicate n
          (segmentsOn ((s.registry.targets? tok.type).getD []) q tok.value tok.unit)).flatten) := by
  set ts := (s.registry.targets? tok.type).getD [] with hts
  have hsolid : ∀ t ∈ ts, Solid (t.segment tok.value tok.unit) :=
    fun t ht => solid_segment_of_parseClass hc ht (happ t ht) _ _
  -- every round is solid, so each is a chain of solid segments
  have hrounds : ∀ n, ∀ x ∈ (List.replicate n (segmentsOn ts q tok.value tok.unit)).flatten,
      Solid x := by
    intro n x hx
    obtain ⟨l, hl, hxl⟩ := List.mem_flatten.1 hx
    obtain rfl := List.eq_of_mem_replicate hl
    obtain ⟨t, ht, rfl⟩ := List.mem_map.1 hxl
    exact hsolid t (List.mem_filter.1 ht).1
  induction n with
  | zero => exact ⟨by simp [chainText_nil], fun h => absurd h (Nat.lt_irrefl 0)⟩
  | succ n ih =>
    have hsize : el < ((fun s' : Session => (s'.apply el c).1)^[n] s).page.size := by
      rw [Session.size_iterate_apply]
      exact hel
    have hv := Page.styleValue_writeTargets_chain hsize happ hsolid (hrounds n) ih.1
    rw [if_neg hq, ← flatten_replicate_succ] at hv
    rw [Session.page_iterate_apply_succ el c hc hm hcustom n, hv]
    exact ⟨trimBlank_chainText (hrounds (n + 1)), fun _ => rfl⟩

/-- Applying an immediate class again. When none of its targets appends (or it is a custom
property class), a second application leaves the element's style text as the first left it.
When all of them append, after `n ≥ 1` applications each property its targets land on holds
the property's starting value, trimmed and left out when empty, then `n` rounds of the segments
`fn(valueunit)` of the targets landing there, in target order, all separated by single
spaces. -/
theorem apply_overwrites_once_appends_linearly (s : Session) (el : Nat) {c : String}
    {tok : Token} (hc : parseClass c = some tok) (hm : s.modeOf tok = .immediate) :
    ((isCustomType tok.type = true ∨
        ∀ t ∈ (s.registry.targets? tok.type).getD [], t.kind.appends = false) →
      ((s.apply el c).1.apply el c).1.page.styleText el = (s.apply el c).1.page.styleText el) ∧
    (isCustomType tok.type = false →
      (∀ t ∈ (s.registry.targets? tok.type).getD [], t.kind.appends = true) →
      el < s.page.size → ∀ n, 0 < n →
      ∀ q ∈ ((s.registry.targets? tok.type).getD []).map (·.property),
        ((fun s' : Session => (s'.apply el c).1)^[n] s).page.styleValue el q =
          chainText (s.page.styleValue el q) (List.replicate n
            (segmentsOn ((s.registry.targets? tok.type).getD []) q tok.value tok.unit)).flatten) := by
  refine ⟨fun h => ?_, fun hcustom happ hel n hn q hq => ?_⟩
  · -- the second application finds every property already at the text it writes
    simp only [Page.styleText]
    rw [Session.style_apply_apply_of_uniform el hc hm h]
  · -- a property that a target lands on gets that target's segment in every round
    have hsegs : segmentsOn ((s.registry.targets? tok.type).getD []) q tok.value tok.unit ≠ [] := by
      obtain ⟨t, ht, rfl⟩ := List.mem_map.1 hq
      simpa [segmentsOn] using ⟨t, ht, rfl⟩
    exact (Session.styleValue_iterate_apply_chain el hc hm hcustom happ hel hsegs n).2 hn

theorem apply_overwrites_once_appends_linearly_blur :
    let page : Page := ⟨[], #[⟨⟨"", "div"⟩, none, [], ⟨[("filter", "sepia(1)")]⟩⟩]⟩
    let s := Session.start ⟨[("blur", ["ftr"])]⟩ default none page
    let tok : Token := ⟨"", "blur", "2", "px"⟩
    (parseClass "blur-2px" = some tok ∧ s.modeOf tok = .immediate) ∧
    ((isCustomType tok.type = true ∨
        ∀ t ∈ (s.registry.targets? tok.type).getD [], t.kind.appends = false) →
      ((s.apply 0 "blur-2px").1.apply 0 "blur-2px").1.page.styleText 0 =
        (s.apply 0 "blur-2px").1.page.styleText 0) ∧
    (isCustomType tok.type = false →
      (∀ t ∈ (s.registry.targets? tok.type).getD [], t.kind.appends = true) →
      0 < s.page.size → ∀ n, 0 < n →
      ∀ q ∈ ((s.registry.targets? tok.type).getD []).map (·.property),
        ((fun s' : Session => (s'.apply 0 "blur-2px").1)^[n] s).page.styleValue 0 q =
          chainText (s.page.styleValue 0 q) (List.replicate n
            (segmentsOn ((s.registry.targets? tok.type).getD []) q tok.value tok.unit)).flatten) := by
  intro page s tok
  have hc : parseClass "blur-2px" = some tok := by
    simp only [parseClass]
    simp
    decide
  have hm : s.modeOf tok = .immediate := by
    simp [s, tok, Session.modeOf, Session.context, Session.start, Context.modeOf, Registry.knows,
      isCustomType, Registry.targets?, Registry.properties?, compileTargets, compileTarget]
  exact ⟨⟨hc, hm⟩, apply_overwrites_once_appends_linearly s 0 hc hm⟩

end UtilityStyles
