import UtilityStyles.Proofs.Explain
import Mathlib
/-!
# The breakpoint an explanation reports

An explanation of a responsive class reports a breakpoint and whether the class is active, and
the two come from different lookups in the breakpoint table. The breakpoint is the first entry
the prefix names, whatever its range. Activity asks whether some entry of that name holds the
window's width, which is the lookup applying the class makes. A table may name a breakpoint more
than once (appending, `Use` and configuration all add entries), so the range reported beside
`active` or `inactive` decides activity exactly when the first entry holds the width or no
entry of the name does; always when the name stands once in the table.

## Main definitions

* `BreakpointTable.FirstNamed` : the first entry of a name.

## Main statements

* `BreakpointTable.named?_eq_some_iff`, `BreakpointTable.find?_isSome_iff` : the two lookups.
* `Context.explain_breakpoint` : the breakpoint a responsive explanation reports.
* `explain_breakpoint_and_activity` : what the breakpoint and the activity say, and when they
  agree.
-/

namespace UtilityStyles

open UtilityStyles.Class (parseClass)

namespace BreakpointTable

/-- `b` is the first entry of the table named `name`. -/
def FirstNamed (t : BreakpointTable) (name : String) (b : Breakpoint) : Prop :=
  b.name = name ∧ ∃ pre post, t.entries = pre ++ b :: post ∧ ∀ b' ∈ pre, b'.name ≠ name

theorem named?_eq_some_iff (t : BreakpointTable) (name : String) (b : Breakpoint) :
    t.named? name = some b ↔ t.FirstNamed name b := by
  simp [named?, FirstNamed, List.find?_eq_some_iff_append]

/-- A named breakpoint holds a width when some entry of the name holds it. -/
theorem find?_isSome_iff (t : BreakpointTable) (name : String) (w : Float) :
    (t.find? name w).isSome = true ↔ ∃ b ∈ t.entries, b.name = name ∧ b.contains w = true := by
  simp [find?, List.find?_isSome]

theorem exists_named?_of_has {t : BreakpointTable} {name : String} (h : t.has name = true) :
    ∃ b, t.named? name = some b := by
  obtain ⟨b, hb, hname⟩ := List.any_eq_true.1 h
  exact Option.isSome_iff_exists.1 (List.find?_isSome.2 ⟨b, hb, hname⟩)

/-- When a name stands once in a table, its first entry is its only one. -/
theorem FirstNamed.eq_of_countP {t : BreakpointTable} {name : String} {b : Breakpoint}
    (hb : t.FirstNamed name b) (hone : t.entries.countP (·.name == name) = 1) {b' : Breakpoint}
    (hb' : b' ∈ t.entries) (hname : b'.name = name) : b' = b := by
  obtain ⟨hbname, pre, post, hentries, hpre⟩ := hb
  rw [hentries] at hone hb'
  have hpre0 : pre.countP (·.name == name) = 0 :=
    List.countP_eq_zero.2 fun x hx => by simp [hpre x hx]
  have hpost0 : post.countP (·.name == name) = 0 := by
    simp only [List.countP_append, List.countP_cons, hpre0, hbname, beq_self_eq_true,
      if_true] at hone
    omega
  rcases List.mem_append.1 hb' with hin | hin
  · exact absurd hname (hpre b' hin)
  · rcases List.mem_cons.1 hin with rfl | hin
    · rfl
    · exact absurd (by simp [hname] : (b'.name == name) = true)
        (List.countP_eq_zero.1 hpost0 b' hin)

end BreakpointTable

namespace Context

variable {c : Context} {cls : String} {tok : Token}

theorem has_of_responsive (h : c.modeOf tok = .responsive) :
    c.breakpoints.has tok.prefixName = true := by
  unfold modeOf at h
  split at h
  · cases h
  · split at h
    · cases h
    · split at h
      · cases h
      · split at h
        · rename_i hwhas
          exact (Bool.and_eq_true _ _ ▸ hwhas).2
        · cases h

/-- A responsive explanation reports the first entry its prefix names. -/
theorem explain_breakpoint (h : parseClass cls = some tok) (hm : c.modeOf tok = .responsive) :
    (c.explain cls).breakpoint = c.breakpoints.named? tok.prefixName := by
  unfold explain
  simp only [h, hm]
  rfl

end Context

/-- **The breakpoint an explanation reports.** For every breakpoint table, window and class that
explaining classifies responsive: the class has a prefix, the window a width `w`, and the
explanation reports the first entry `b` the prefix names. The class is active exactly when some
entry of that name holds `w`. So activity agrees with `b` holding `w` exactly when `b` holds `w`
or no entry of the name does, and always when the name stands once in the table. -/
theorem explain_breakpoint_and_activity (c : Context) (cls : String)
    (h : (c.explain cls).mode = .responsive) :
    ∃ tok w b, parseClass cls = some tok ∧ c.width = some w ∧
      (c.explain cls).breakpoint = some b ∧ c.breakpoints.FirstNamed tok.prefixName b ∧
      ((c.explain cls).active = true ↔
        ∃ b' ∈ c.breakpoints.entries, b'.name = tok.prefixName ∧ b'.contains w = true) ∧
      ((c.explain cls).active = b.contains w ↔
        b.contains w = true ∨
          ∀ b' ∈ c.breakpoints.entries, b'.name = tok.prefixName → b'.contains w = false) ∧
      (c.breakpoints.entries.countP (·.name == tok.prefixName) = 1 →
        (c.explain cls).active = b.contains w) := by
  -- a responsive explanation comes from a class that parses and whose mode is responsive
  obtain ⟨tok, htok, hm⟩ : ∃ tok, parseClass cls = some tok ∧ c.modeOf tok = .responsive := by
    rw [Context.explain_mode] at h
    cases hp : parseClass cls with
    | none => simp [hp] at h
    | some tok => exact ⟨tok, rfl, by simpa [hp] using h⟩
  obtain ⟨w, hw⟩ := Option.isSome_iff_exists.1 (Session.Context.width_isSome_of_responsive hm)
  obtain ⟨b, hb⟩ := BreakpointTable.exists_named?_of_has (Context.has_of_responsive hm)
  have hfirst := (BreakpointTable.named?_eq_some_iff _ _ _).1 hb
  have hactive : (c.explain cls).active = true ↔
      ∃ b' ∈ c.breakpoints.entries, b'.name = tok.prefixName ∧ b'.contains w = true := by
    rw [Context.explain_active htok hm, hw, Option.getD_some, BreakpointTable.find?_isSome_iff]
  have hbmem : b ∈ c.breakpoints.entries := by
    obtain ⟨-, pre, post, hentries, -⟩ := hfirst
    simp [hentries]
  -- activity and `b`'s range part only when `b` misses the width and another entry holds it
  have hagree : (c.explain cls).active = b.contains w ↔
      b.contains w = true ∨
        ∀ b' ∈ c.breakpoints.entries, b'.name = tok.prefixName → b'.contains w = false := by
    cases hbw : b.contains w with
    | true =>
      have : (c.explain cls).active = true := hactive.2 ⟨b, hbmem, hfirst.1, hbw⟩
      simp [this]
    | false =>
      simp only [Bool.false_eq_true, false_or, ← Bool.not_eq_true, hactive]
      constructor
      · intro hnot b' hb' hname hcont
        exact hnot ⟨b', hb', hname, hcont⟩
      · rintro hall ⟨b', hb', hname, hcont⟩
        exact hall b' hb' hname hcont
  refine ⟨tok, w, b, htok, hw, by rw [Context.explain_breakpoint htok hm, hb], hfirst, hactive,
    hagree, fun hone => hagree.2 ?_⟩
  -- with the name once in the table, every entry of the name is `b`
  cases hbw : b.contains w with
  | true => exact .inl rfl
  | false =>
    refine .inr fun b' hb' hname => ?_
    rw [hfirst.eq_of_countP hone hb' hname, hbw]

/-- A `tablet` breakpoint named once, with no bounds, at a window of 800 pixels. -/
theorem explain_breakpoint_and_activity_tablet :
    let c : Context := ⟨⟨[("p", ["padding"])]⟩, ⟨[⟨"tablet", none, none⟩]⟩, some 800⟩
    (c.explain "tablet:p-1px").mode = .responsive ∧
    ∃ tok w b, parseClass "tablet:p-1px" = some tok ∧ c.width = some w ∧
      (c.explain "tablet:p-1px").breakpoint = some b ∧ c.breakpoints.FirstNamed tok.prefixName b ∧
      ((c.explain "tablet:p-1px").active = true ↔
        ∃ b' ∈ c.breakpoints.entries, b'.name = tok.prefixName ∧ b'.contains w = true) ∧
      ((c.explain "tablet:p-1px").active = b.contains w ↔
        b.contains w = true ∨
          ∀ b' ∈ c.breakpoints.entries, b'.name = tok.prefixName → b'.contains w = false) ∧
      (c.breakpoints.entries.countP (·.name == tok.prefixName) = 1 →
        (c.explain "tablet:p-1px").active = b.contains w) := by
  intro c
  have hparse : parseClass "tablet:p-1px" = some ⟨"tablet", "p", "1", "px"⟩ := by
    simp only [parseClass]; simp; decide
  have hknows : Registry.knows ⟨[("p", ["padding"])]⟩ "p" = true := by decide
  have hhas : BreakpointTable.has ⟨[⟨"tablet", none, none⟩]⟩ "tablet" = true := by decide
  have hhover : Token.isHover ⟨"tablet", "p", "1", "px"⟩ = false := by simp [Token.isHover]
  have hmode : (c.explain "tablet:p-1px").mode = .responsive := by
    rw [Context.explain_mode, hparse]
    simp [c, Context.modeOf, hknows, hhas, hhover]
  exact ⟨hmode, explain_breakpoint_and_activity c "tablet:p-1px" hmode⟩

end UtilityStyles
