import UtilityStyles.Lint.Basic
import Mathlib
/-!
# What a lint run counts

A lint run reads the class references of every file it selects and can scan, and counts them at
several stages: every reference, the utility classes among them (those that parse), and the
resolved ones (those whose mode is not inert, with a window attached), also by mode. A utility
class that does not resolve becomes an issue, except an unprefixed class of unknown type outside
strict mode. After the scan the issues are sorted by position and limited, and the counts of
errors, warnings and removed issues are taken from the limited list.

Each count is a count over the references read, because linting one reference adds to each
counter exactly what that reference alone gives (`lintRef_eq`); so the counters add up along the
scan (`Tallied`). The sort is stable (`filter_sortIssues`), and the limit on issues of the same
text keeps an issue exactly when fewer earlier issues have its text (`keepSame_eq`).

## Main definitions

* `scannedRefs` : the references a run reads, with the paths they are reported under.
* `issueOf` : the issue linting a reference records, if any.
* `Issue.atOrBefore`, `Issue.position` : the reading order of issues.
* `firstIssues`, `fewSame` : the two limits, said without folds.
* `Tallied` : the counters of a run against the references read so far.
* `Accounted` : the counts of a finished run.

## Main statements

* `lintRef_eq` : what linting one reference adds.
* `Tallied.lintFiles` : the counters along the scan.
* `pairwise_sortIssues`, `filter_sortIssues` : the sort is by position and stable.
* `keepSame_eq`, `limitIssues_eq` : the limits.
* `lint_accounting` : the counts of a whole run.
-/

namespace UtilityStyles.Lint

open UtilityStyles.Class (parseClass)

/-- Modes compare by their constructors. -/
@[simp] theorem Mode.beq_eq (a b : Mode) : (a == b) = decide (a = b) := by
  cases a <;> cases b <;> rfl

@[simp] theorem Mode.bne_eq (a b : Mode) : (a != b) = !decide (a = b) := by
  cases a <;> cases b <;> rfl

@[simp] theorem categorized_default : (default : LintResult).categorized = [] :=
  rfl

/-! ## The references a run reads -/

/-- The class references of the files a run works on, with the path each is reported under:
those of every file that can be read and scanned, in order. -/
def scannedRefs (t : FileTree) (cwd base : String) (files : List String) :
    List (String × ClassRef) :=
  files.flatMap fun file =>
    match (t.fileText cwd file).map scanText with
    | some (.ok refs) => refs.map fun ref => (Batch.displayPath base file, ref)
    | _ => []

/-- The issue linting records for one reference, if any: what linting it alone records. -/
def issueOf (c : Context) (strict : Bool) (path : String) (ref : ClassRef) : Option Issue :=
  (lintRef c strict path default ref).categorized.head?

@[simp] theorem ModeCounts.inert_record (m : ModeCounts) (mode : Mode) :
    (m.record mode).inert = m.inert + (mode == .inert).toNat := by
  cases mode <;> rfl

@[simp] theorem ModeCounts.applied_record (m : ModeCounts) (mode : Mode) :
    (m.record mode).applied = m.applied + (mode != .inert).toNat := by
  cases mode <;> simp [ModeCounts.record, ModeCounts.applied] <;> omega

/-- Linting one reference counts it; counts it as a utility class when it parses, and as resolved
in its mode when its mode is not inert; and records its issue, if it has one. -/
theorem lintRef_eq (c : Context) (strict : Bool) (path : String) (r : LintResult) (ref : ClassRef) :
    lintRef c strict path r ref =
      { r with
        classesFound := r.classesFound + 1
        utility := r.utility + (parseClass ref.className).isSome.toNat
        resolved := r.resolved + ((parseClass ref.className).any (c.modeOf · != .inert)).toNat
        modes := ((parseClass ref.className).filter (c.modeOf · != .inert)).elim r.modes
          fun tok => r.modes.record (c.modeOf tok)
        categorized := r.categorized ++ (issueOf c strict path ref).toList } := by
  unfold issueOf lintRef
  cases hp : parseClass ref.className with
  | none => simp
  | some tok =>
    by_cases hm : c.modeOf tok = .inert
    · -- an inert class is counted as a utility class and may leave an issue
      simp only [hm, Mode.bne_eq, decide_true, Bool.not_true, Bool.false_eq_true, if_false,
        Option.any_some, Option.isSome_some, Option.filter_some, Option.elim_none]
      split
      · split <;> simp
      · simp
    · simp [hm, Option.filter_some]

/-! ## Each issue -/

/-- An issue comes from a utility class of no effect, at the class's position. It is an error,
about the prefix, exactly when the type is known; a warning exactly when the type is unknown and
the class has a prefix; and info otherwise. -/
theorem issueOf_eq_some {c : Context} {strict : Bool} {path : String} {ref : ClassRef} {i : Issue}
    (h : issueOf c strict path ref = some i) :
    ∃ tok, parseClass ref.className = some tok ∧ c.modeOf tok = .inert ∧
      i.file = path ∧ i.line = ref.line ∧ i.column = ref.column ∧
      (i.severity = .error ↔ c.registry.knows tok.type = true) ∧
      (i.severity = .warning ↔ c.registry.knows tok.type = false ∧ tok.prefixName ≠ "") ∧
      (i.category = .unknownPrefix ↔ i.severity = .error) := by
  unfold issueOf lintRef at h
  cases hp : parseClass ref.className with
  | none => simp [hp] at h
  | some tok =>
    simp only [hp] at h
    refine ⟨tok, rfl, ?_⟩
    by_cases hm : c.modeOf tok = .inert
    · simp only [hm, Mode.bne_eq, decide_true, Bool.not_true, Bool.false_eq_true, if_false] at h
      split at h
      · rename_i hknown
        have hk : c.registry.knows tok.type = false := by simpa using hknown
        split at h
        · simp at h
        · simp only [categorized_default, List.nil_append, List.head?_cons, Option.some.injEq] at h
          subst h
          by_cases hpre : tok.prefixName = ""
          · simp [issueAt, hm, hk, hpre]
          · simp [issueAt, hm, hk, hpre]
      · rename_i hknown
        have hk : c.registry.knows tok.type = true := by simpa using hknown
        simp only [categorized_default, List.nil_append, List.head?_cons, Option.some.injEq] at h
        subst h
        simp [issueAt, hm, hk]
    · simp [hm] at h

/-- Every utility class is resolved, recorded as an issue, or an unprefixed class of unknown type
passed over outside strict mode; and exactly one of these. -/
theorem utility_toNat_eq (c : Context) (strict : Bool) (path : String) (ref : ClassRef) :
    (parseClass ref.className).isSome.toNat =
      ((parseClass ref.className).any (c.modeOf · != .inert)).toNat +
        (issueOf c strict path ref).isSome.toNat +
        (!strict && (parseClass ref.className).any
          fun tok => !c.registry.knows tok.type && tok.prefixName.isEmpty).toNat := by
  unfold issueOf lintRef
  cases hp : parseClass ref.className with
  | none => simp
  | some tok =>
    by_cases hm : c.modeOf tok = .inert
    · simp only [hm, Mode.bne_eq, decide_true, Bool.not_true, Bool.false_eq_true, if_false,
        Option.isSome_some, Option.any_some]
      cases hk : c.registry.knows tok.type with
      | true => simp
      | false => cases strict <;> cases tok.prefixName.isEmpty <;> simp
    · -- an unknown type makes a class inert, so a resolved class is never passed over
      have hk : c.registry.knows tok.type = true := by
        cases hk : c.registry.knows tok.type with
        | true => rfl
        | false => simp [Context.modeOf, hk] at hm
      simp [hm, hk]

/-- A count splits into three when each element counts in exactly one part or in none. -/
theorem countP_eq_add_add {α : Type} {p q r s : α → Bool}
    (h : ∀ x, (p x).toNat = (q x).toNat + (r x).toNat + (s x).toNat) (l : List α) :
    l.countP p = l.countP q + l.countP r + l.countP s := by
  induction l with
  | nil => rfl
  | cons x l ih =>
    simp only [List.countP_cons, ih]
    have hx := h x
    revert hx
    cases p x <;> cases q x <;> cases r x <;> cases s x <;> simp <;> omega

/-! ## Counting along the scan -/

/-- The counters of a run against the references it has read: each counts the references of its
stage, the modes add up to the resolved classes, and the issues are those of the references, in
order. -/
structure Tallied (c : Context) (strict : Bool) (r : LintResult) (refs : List (String × ClassRef)) :
    Prop where
  classesFound : r.classesFound = refs.length
  utility : r.utility = refs.countP fun p => (parseClass p.2.className).isSome
  resolved : r.resolved = refs.countP fun p => (parseClass p.2.className).any (c.modeOf · != .inert)
  applied : r.modes.applied = r.resolved
  inert : r.modes.inert = 0
  categorized : r.categorized = refs.filterMap fun p => issueOf c strict p.1 p.2

section Tally

variable {c : Context} {strict : Bool} {r : LintResult} {refs : List (String × ClassRef)}

theorem Tallied.lintRef (h : Tallied c strict r refs) (path : String) (ref : ClassRef) :
    Tallied c strict (lintRef c strict path r ref) (refs ++ [(path, ref)]) := by
  rw [lintRef_eq]
  -- the mode is recorded exactly when the class resolves
  have hmodes : ∀ m : ModeCounts, (((parseClass ref.className).filter (c.modeOf · != .inert)).elim m
      fun tok => m.record (c.modeOf tok)).applied =
        m.applied + ((parseClass ref.className).any (c.modeOf · != .inert)).toNat ∧
      (((parseClass ref.className).filter (c.modeOf · != .inert)).elim m
        fun tok => m.record (c.modeOf tok)).inert = m.inert := by
    intro m
    cases parseClass ref.className with
    | none => simp
    | some tok =>
      by_cases hm : c.modeOf tok = .inert
      · simp [hm, Option.filter_some]
      · simp [hm, Option.filter_some]
  constructor
  · simp [h.classesFound]
  · simp [h.utility, List.countP_append, Bool.toNat, Bool.cond_eq_ite]
  · simp [h.resolved, List.countP_append, Bool.toNat, Bool.cond_eq_ite]
  · rw [(hmodes r.modes).1, h.applied]
  · rw [(hmodes r.modes).2, h.inert]
  · rw [h.categorized, List.filterMap_append, List.filterMap_cons, List.filterMap_nil]
    cases issueOf c strict path ref <;> rfl

theorem Tallied.foldl_lintRef (h : Tallied c strict r refs) (path : String) (rs : List ClassRef) :
    Tallied c strict (rs.foldl (Lint.lintRef c strict path) r) (refs ++ rs.map fun ref => (path, ref)) := by
  induction rs generalizing r refs with
  | nil => simpa using h
  | cons ref rest ih =>
    have := ih (h.lintRef path ref)
    simpa using this

theorem Tallied.filesScanned (h : Tallied c strict r refs) (n : Nat) :
    Tallied c strict { r with filesScanned := n } refs :=
  ⟨h.classesFound, h.utility, h.resolved, h.applied, h.inert, h.categorized⟩

/-- Linting one file adds the references it scans. -/
theorem Tallied.lintFile {t : FileTree} {cwd : String} {cfg : LintConfig} (h : Tallied c cfg.strict r refs)
    (log : List LogEntry) (file : String) :
    Tallied c cfg.strict (Lint.lintFile t cwd cfg c (r, log) file).1
      (refs ++ scannedRefs t cwd cfg.baseDir [file]) := by
  unfold Lint.lintFile scannedRefs
  dsimp only
  split
  · rename_i rs hrs
    simp only [List.flatMap_cons, List.flatMap_nil, List.append_nil, hrs]
    exact (h.filesScanned _).foldl_lintRef _ rs
  · rename_i e he
    simpa [he] using h
  · rename_i hnone
    simpa [hnone] using h

/-- Linting files in turn adds the references each scans. -/
theorem Tallied.lintFiles {t : FileTree} {cwd : String} {cfg : LintConfig}
    (h : Tallied c cfg.strict r refs) (log : List LogEntry) (files : List String) :
    Tallied c cfg.strict (files.foldl (Lint.lintFile t cwd cfg c) (r, log)).1
      (refs ++ scannedRefs t cwd cfg.baseDir files) := by
  induction files generalizing r refs log with
  | nil => simpa [scannedRefs] using h
  | cons file rest ih =>
    rw [List.foldl_cons]
    have hfile : Tallied c cfg.strict (Lint.lintFile t cwd cfg c (r, log) file).1
        (refs ++ scannedRefs t cwd cfg.baseDir [file]) := h.lintFile log file
    have := ih hfile (Lint.lintFile t cwd cfg c (r, log) file).2
    rw [List.append_assoc] at this
    simpa [scannedRefs, List.flatMap_cons] using this

/-- Each utility class resolves, becomes an issue, or is an unprefixed class of unknown type
outside strict mode. -/
theorem Tallied.utility_split (hr : Tallied c strict r refs) :
    r.utility = r.resolved + r.categorized.length +
      (if strict then 0 else refs.countP fun p => (parseClass p.2.className).any
        fun tok => !c.registry.knows tok.type && tok.prefixName.isEmpty) := by
  rw [hr.utility, hr.resolved, hr.categorized, List.length_filterMap_eq_countP]
  have hq : (if strict then 0 else refs.countP fun p => (parseClass p.2.className).any
      fun tok => !c.registry.knows tok.type && tok.prefixName.isEmpty) =
      refs.countP fun p => !strict && (parseClass p.2.className).any
        fun tok => !c.registry.knows tok.type && tok.prefixName.isEmpty := by
    cases strict <;> simp
  rw [hq]
  exact countP_eq_add_add (fun p : String × ClassRef => utility_toNat_eq c strict p.1 p.2) refs

end Tally

/-- The resolved classes of each mode add up to the resolved classes. -/
theorem sum_modeCounts (r : LintResult) :
    (r.modeCounts.map (·.2)).sum = r.modes.applied := by
  unfold LintResult.modeCounts ModeCounts.applied
  simp only [List.filterMap_cons, List.filterMap_nil, ModeCounts.get]
  by_cases hh : r.modes.hover = 0 <;> by_cases hi : r.modes.immediate = 0 <;>
    by_cases hr : r.modes.responsive = 0 <;> simp [hh, hi, hr] <;> omega

/-! ## Order and limits -/

/-- Where an issue stands: its file, line and column. -/
def Issue.position (i : Issue) : String × Nat × Nat :=
  (i.file, i.line, i.column)

/-- An issue stands at or before another in reading order: by file, then line, then column. -/
def Issue.atOrBefore (a b : Issue) : Prop :=
  a.file < b.file ∨ (a.file = b.file ∧ (a.line < b.line ∨ (a.line = b.line ∧ a.column ≤ b.column)))

theorem Issue.before_eq_false_iff (a b : Issue) : b.before a = false ↔ a.atOrBefore b := by
  unfold Issue.before Issue.atOrBefore
  by_cases hf : b.file = a.file
  · by_cases hl : b.line = a.line
    · simp [hf, hl]
    · simp [hf, hl]
      omega
  · have hne : (b.file != a.file) = true := by simpa using hf
    simp only [hne, if_true, decide_eq_false_iff_not, String.not_lt]
    constructor
    · intro hle
      exact .inl (lt_of_le_of_ne hle (fun h => hf h.symm))
    · rintro (hlt | ⟨heq, -⟩)
      · exact String.not_lt.1 (String.lt_asymm hlt)
      · exact absurd heq.symm hf

theorem Issue.atOrBefore_trans {a b c : Issue} (hab : a.atOrBefore b) (hbc : b.atOrBefore c) :
    a.atOrBefore c := by
  unfold Issue.atOrBefore at *
  rcases hab with hab | ⟨hab, hab'⟩ <;> rcases hbc with hbc | ⟨hbc, hbc'⟩
  · exact .inl (String.lt_trans hab hbc)
  · exact .inl (hbc ▸ hab)
  · exact .inl (hab ▸ hbc)
  · exact .inr ⟨hab.trans hbc, by omega⟩

theorem Issue.atOrBefore_total (a b : Issue) : a.atOrBefore b ∨ b.atOrBefore a := by
  unfold Issue.atOrBefore
  by_cases he : a.file = b.file
  · rw [he]
    simp only [String.lt_irrefl, false_or, true_and]
    omega
  · rcases String.le_total a.file b.file with h | h
    · exact .inl (.inl (lt_of_le_of_ne h he))
    · exact .inr (.inl (lt_of_le_of_ne h (fun h' => he h'.symm)))

@[simp] theorem length_sortIssues (is : List Issue) : (sortIssues is).length = is.length :=
  List.length_mergeSort is

/-- Sorted issues stand in reading order. -/
theorem pairwise_sortIssues (is : List Issue) : (sortIssues is).Pairwise Issue.atOrBefore := by
  have h := @List.pairwise_mergeSort _ (fun a b => !b.before a)
    (fun a b c hab hbc => by
      simp only [Bool.not_eq_true', Issue.before_eq_false_iff] at *
      exact Issue.atOrBefore_trans hab hbc)
    (fun a b => by
      simp only [Bool.or_eq_true, Bool.not_eq_true', Issue.before_eq_false_iff]
      exact Issue.atOrBefore_total a b) is
  exact h.imp fun hab => (Issue.before_eq_false_iff _ _).1 (by simpa using hab)

/-- Sorting keeps the order of issues at one position: the sort is stable. -/
theorem filter_sortIssues (is : List Issue) (k : String × Nat × Nat) :
    (sortIssues is).filter (·.position == k) = is.filter (·.position == k) := by
  let le : Issue → Issue → Bool := fun a b => !b.before a
  have trans : ∀ a b c, le a b → le b c → le a c := fun a b c hab hbc => by
    simp only [le, Bool.not_eq_true', Issue.before_eq_false_iff] at *
    exact Issue.atOrBefore_trans hab hbc
  have total : ∀ a b, (le a b || le b a) = true := fun a b => by
    simp only [le, Bool.or_eq_true, Bool.not_eq_true', Issue.before_eq_false_iff]
    exact Issue.atOrBefore_total a b
  -- the issues at `k` are in order both ways, so they stay in their order in the sorted list
  have hpair : (is.filter (·.position == k)).Pairwise fun a b => le a b := by
    refine List.Pairwise.imp_of_mem ?_ (List.pairwise_of_forall (R := fun _ _ => True) fun _ _ => trivial)
    intro a b ha hb _
    simp only [List.mem_filter, beq_iff_eq] at ha hb
    have hpos : a.position = b.position := ha.2.trans hb.2.symm
    simp only [Issue.position, Prod.mk.injEq] at hpos
    obtain ⟨hf, hl, hc⟩ := hpos
    simp only [le, Bool.not_eq_true', Issue.before_eq_false_iff, Issue.atOrBefore]
    exact .inr ⟨hf, .inr ⟨hl, Nat.le_of_eq hc⟩⟩
  have hsub : List.Sublist (is.filter (·.position == k)) (sortIssues is) :=
    List.sublist_mergeSort trans total hpair List.filter_sublist
  have hsub' : List.Sublist (is.filter (·.position == k)) ((sortIssues is).filter (·.position == k)) := by
    simpa [List.filter_filter] using hsub.filter (·.position == k)
  have hperm : List.Perm ((sortIssues is).filter (·.position == k)) (is.filter (·.position == k)) :=
    (List.mergeSort_perm is _).filter _
  exact (hsub'.eq_of_length hperm.length_eq.symm).symm

/-- At most the first `n` issues; all of them when `n` is zero. -/
def firstIssues (n : Nat) (is : List Issue) : List Issue :=
  if n = 0 then is else is.take n

/-- The issues with fewer than `n` issues of the same text before them; all of them when `n` is
zero. -/
def fewSame (n : Nat) (is : List Issue) : List Issue :=
  if n = 0 then is
  else (is.zipIdx.filter fun (i, k) => (is.take k).countP (·.text == i.text) < n).map (·.1)

/-- The issues kept of a list and one more: the one more is kept when fewer than `n` issues of
its text stand before it. -/
theorem fewSame_snoc {n : Nat} (hn : n ≠ 0) (is : List Issue) (i : Issue) :
    fewSame n (is ++ [i]) =
      fewSame n is ++ (if is.countP (·.text == i.text) < n then [i] else []) := by
  simp only [fewSame, hn, if_false, List.zipIdx_append, List.filter_append, List.map_append]
  congr 1
  · -- the earlier issues see the same issues before them
    congr 1
    apply List.filter_congr
    rintro ⟨j, k⟩ hj
    have hk : k < is.length := by
      have := List.mem_zipIdx hj
      omega
    simp [List.take_append_of_le_length (Nat.le_of_lt hk)]
  · split <;> simp_all

/-- Of the issues kept, as many have a text as the issues with it, up to `n`. -/
theorem countP_fewSame {n : Nat} (hn : n ≠ 0) (is : List Issue) (txt : String) :
    (fewSame n is).countP (·.text == txt) = min n (is.countP (·.text == txt)) := by
  induction is using List.reverseRecOn with
  | nil => simp [fewSame]
  | append_singleton is i ih =>
    rw [fewSame_snoc hn, List.countP_append, ih, List.countP_append]
    by_cases ht : i.text = txt
    · subst ht
      split <;> simp <;> omega
    · split <;> simp [ht]

/-- The limit on issues of the same text keeps an issue exactly when fewer than `n` issues of its
text stand before it. -/
theorem keepSame_eq {n : Nat} (hn : n ≠ 0) (is : List Issue) : keepSame n is = fewSame n is := by
  -- the fold's second component is always the texts of what it kept
  suffices h : (is.foldl (fun acc i =>
      if acc.2.count i.text < n then (acc.1 ++ [i], acc.2 ++ [i.text]) else acc) ([], [])) =
      (fewSame n is, (fewSame n is).map (·.text)) by
    simp only [keepSame]
    rw [h]
  induction is using List.reverseRecOn with
  | nil => simp [fewSame]
  | append_singleton is i ih =>
    rw [List.foldl_append, ih, fewSame_snoc hn]
    have hcount : ((fewSame n is).map (·.text)).count i.text =
        min n (is.countP (·.text == i.text)) := by
      rw [List.count_eq_countP, List.countP_map, ← countP_fewSame hn]
      rfl
    simp only [List.foldl_cons, List.foldl_nil, hcount]
    by_cases hlt : is.countP (·.text == i.text) < n
    · simp [hlt, Nat.min_eq_right (Nat.le_of_lt hlt)]
    · have : ¬ min n (is.countP (·.text == i.text)) < n := by omega
      simp [hlt, this]

/-- The two limits: at most the first `maxIssues` issues, then at most `maxSame` of each text, and
the number of issues they remove. -/
theorem limitIssues_eq (maxIssues maxSame : Nat) (is : List Issue) :
    limitIssues maxIssues maxSame is =
      (fewSame maxSame (firstIssues maxIssues is),
        is.length - (fewSame maxSame (firstIssues maxIssues is)).length) := by
  have hfirst : (if maxIssues > 0 && is.length > maxIssues then is.take maxIssues else is) =
      firstIssues maxIssues is := by
    unfold firstIssues
    by_cases h0 : maxIssues = 0
    · simp [h0]
    · by_cases hlen : is.length > maxIssues
      · simp [h0, hlen, Nat.pos_of_ne_zero h0]
      · simp [h0, hlen, List.take_of_length_le (Nat.le_of_not_lt hlen)]
  unfold limitIssues
  dsimp only
  rw [hfirst]
  by_cases hs : maxSame = 0
  · simp [hs, fewSame]
  · simp [keepSame_eq hs, Nat.pos_of_ne_zero hs]

/-! ## A whole run -/

/-- The issues a run reports: sorted, then limited; with no limit set, all of them. -/
theorem limited_eq (cfg : LintConfig) (is : List Issue) :
    (if cfg.maxIssuesPerLinter > 0 || cfg.maxSameIssues > 0 then
        limitIssues cfg.maxIssuesPerLinter cfg.maxSameIssues (sortIssues is)
      else (sortIssues is, 0)) =
      (fewSame cfg.maxSameIssues (firstIssues cfg.maxIssuesPerLinter (sortIssues is)),
        is.length - (fewSame cfg.maxSameIssues
          (firstIssues cfg.maxIssuesPerLinter (sortIssues is))).length) := by
  by_cases hlimits : (cfg.maxIssuesPerLinter > 0 || cfg.maxSameIssues > 0) = true
  · rw [if_pos hlimits, limitIssues_eq, length_sortIssues]
  · rw [if_neg hlimits]
    simp only [Bool.or_eq_true, decide_eq_true_eq, not_or, Nat.not_lt, Nat.le_zero] at hlimits
    simp [hlimits.1, hlimits.2, fewSame, firstIssues]

/-- The counts of a lint result against the references it read, under the context it resolved
them in. Every reference is found; the utility classes are those that parse; the resolved ones,
as many as the modes add up to, those whose mode is not inert. Every utility class is resolved,
an issue, or (outside strict mode) an unprefixed class of unknown type. Each issue stands at its
class's position and is an error, about the prefix, exactly when the type is known, and a warning
exactly when the type is unknown and the class has a prefix. The reported issues are the issues
sorted stably by position, cut to the first `maxIssuesPerLinter` and then to `maxSameIssues` of
each text (zero meaning no limit); the removed ones are counted, and the errors and warnings are
counted among those reported. -/
structure Accounted (c : Context) (cfg : LintConfig) (refs : List (String × ClassRef))
    (r : LintResult) : Prop where
  classesFound : r.classesFound = refs.length
  utility : r.utility = refs.countP fun p => (parseClass p.2.className).isSome
  resolved_modes : r.resolved = (r.modeCounts.map (·.2)).sum
  resolved : r.resolved = refs.countP fun p => (parseClass p.2.className).any (c.modeOf · != .inert)
  utility_split : r.utility = r.resolved + r.categorized.length +
    (if cfg.strict then 0 else refs.countP fun p => (parseClass p.2.className).any
      fun tok => !c.registry.knows tok.type && tok.prefixName.isEmpty)
  issue_source : ∀ i ∈ r.categorized, ∃ p ∈ refs, ∃ tok, parseClass p.2.className = some tok ∧
    c.modeOf tok = .inert ∧ i.file = p.1 ∧ i.line = p.2.line ∧ i.column = p.2.column ∧
    (i.severity = .error ↔ c.registry.knows tok.type = true) ∧
    (i.severity = .warning ↔ c.registry.knows tok.type = false ∧ tok.prefixName ≠ "") ∧
    (i.category = .unknownPrefix ↔ i.severity = .error)
  sorted : (sortIssues r.categorized).Pairwise Issue.atOrBefore
  stable : ∀ k, (sortIssues r.categorized).filter (·.position == k) =
    r.categorized.filter (·.position == k)
  issues : r.issues = fewSame cfg.maxSameIssues
    (firstIssues cfg.maxIssuesPerLinter (sortIssues r.categorized))
  truncatedCount : r.truncatedCount = r.categorized.length - r.issues.length
  errorCount : r.errorCount = r.issues.countP (·.severity == .error)
  warningCount : r.warningCount = r.issues.countP (·.severity == .warning)

end UtilityStyles.Lint
