import UtilityStyles.Proofs.ReferencePositions
import UtilityStyles.Proofs.LintCounts
import UtilityStyles.Proofs.ClassMatch
/-!
# The fix a lint issue suggests for a prefix

A utility class whose type is known but whose prefix is neither `hover` nor a breakpoint is an
issue about the prefix. When a breakpoint's name is fewer than three edits from the prefix, the
issue suggests a replacement: the text of the class's token with that name as its prefix, in
place of the whole class name.

The token is what the class grammar matches in the class name, at the leftmost place where it
matches. Text of the name before or after that place (`x.mdd:p-1px`) is not in the token, and
applying the replacement drops it. The new class reads back with the suggested name as its
prefix when the name is itself a prefix word (`[a-z-]+`), and the linter's own resolver
classifies it as hover when the name starts with `hover` and as responsive otherwise.

## Main definitions

* `TokenFix` : what applying the replacement of an issue writes, and how the result classifies.

## Main statements

* `parseClass_split` : a class name is its token's text with text before and after it.
* `parseClass_render_tokenOf` : a token read with a prefix reads back under any prefix word.
* `suggestPrefix_eq_some` : what a suggestion is made of.
* `lint_eq_ok_tallied` : a lint run tallies the references of its files and limits their issues.
* `lint_issue_source` : every issue of a run is the issue of a reference read from a file.
* `prefix_fix_rewrites_matched_token` : the replacement of every issue of a run.
-/

namespace UtilityStyles.Class

/-- A class name is the text of its token, with text before and after it. -/
theorem parseClass_split {cls : String} {tok : Token} (h : parseClass cls = some tok) :
    ∃ a b, cls.toList = a ++ tok.render.toList ++ b := by
  obtain ⟨i, hi, -⟩ := matchFrom_eq_some_iff.1 h
  obtain ⟨⟨b, hb⟩, -⟩ := matchAt_sound hi
  exact ⟨cls.toList.take i, b, by rw [List.append_assoc, hb, List.take_append_drop]⟩

/-- A token read with a prefix: the prefix is a prefix word, and the type, the value and the unit
read back on their own. -/
theorem parseClass_prefixed {cls : String} {tok : Token} (h : parseClass cls = some tok)
    (hp : tok.prefixName ≠ "") :
    ∃ p ty v u, IsPrefix p ∧ tok = tokenOf p (ty, v, u) ∧
      readTypeValue (ty ++ '-' :: (v ++ u)) = some (ty, v, u) := by
  obtain ⟨i, hi, -⟩ := matchFrom_eq_some_iff.1 h
  rcases matchAt_eq_some_cases hi with ⟨p, r, ⟨ty, v, u⟩, hpre, -, hm, rfl⟩ | ⟨m, -, rfl⟩
  · obtain ⟨s, rfl, -⟩ := readTypeValue_sound hm
    exact ⟨p, ty, v, u, hpre, rfl, readTypeValue_cut hm⟩
  · simp [prefixName_tokenOf] at hp

/-- A token's type, value and unit that read back on their own, written out under a prefix word,
read back with that prefix. -/
theorem parseClass_render_tokenOf {p ty v u : List Char} (hp : IsPrefix p)
    (h : readTypeValue (ty ++ '-' :: (v ++ u)) = some (ty, v, u)) :
    parseClass (tokenOf p (ty, v, u)).render = some (tokenOf p (ty, v, u)) := by
  obtain ⟨c, p', rfl⟩ := List.exists_cons_of_ne_nil hp.1
  unfold parseClass
  rw [render_tokenOf_prefixed hp.1, List.cons_append, matchFrom_cons, ← List.cons_append,
    matchAt_prefixed hp, h]
  rfl

end UtilityStyles.Class

namespace UtilityStyles.Lint

open UtilityStyles.Class (parseClass tokenOf IsPrefix)

/-! ## The suggestion -/

/-- A suggestion names an entry of the table, and is the token written out with that name as its
prefix, in place of the whole class name. -/
theorem suggestPrefix_eq_some {bps : BreakpointTable} {tok : Token} {cls : String}
    {rep : Replacement} (h : suggestPrefix bps tok cls = some rep) :
    ∃ best, best ≠ "" ∧ bps.has best = true ∧
      rep = ⟨{ tok with prefixName := best }.render, cls.utf8ByteSize⟩ := by
  unfold suggestPrefix at h
  generalize hres : List.foldl _ ("", 3) bps.entries = res at h
  -- the closest name so far is empty or the name of an entry
  have hinv : res.1 = "" ∨ bps.has res.1 = true := by
    rw [← hres]
    refine List.foldlRecOn (motive := fun res : String × Nat => res.1 = "" ∨ bps.has res.1 = true)
      _ _ (.inl rfl) ?_
    rintro ⟨best, dist⟩ hbest bp hbp
    dsimp only
    split
    · exact .inr (List.any_eq_true.2 ⟨bp, hbp, beq_self_eq_true _⟩)
    · exact hbest
  obtain ⟨best, dist⟩ := res
  dsimp only at h hinv
  split at h
  · cases h
  · rename_i hne
    cases h
    have hbest : best ≠ "" := by simpa using hne
    exact ⟨best, hbest, hinv.resolve_left hbest, rfl⟩

/-! ## The issue -/

/-- An issue with a replacement is about a utility class of known type whose mode is inert, at
the class's line and column; its replacement is the suggestion for the class. -/
theorem issueOf_replacement {c : Context} {strict : Bool} {path : String} {ref : ClassRef}
    {i : Issue} {rep : Replacement} (h : issueOf c strict path ref = some i)
    (hrep : i.replacement = some rep) :
    ∃ tok, parseClass ref.className = some tok ∧ c.modeOf tok = .inert ∧
      c.registry.knows tok.type = true ∧ suggestPrefix c.breakpoints tok ref.className = some rep ∧
      i.sourceLines = [ref.text] ∧ i.column = ref.column := by
  unfold issueOf lintRef at h
  cases hp : parseClass ref.className with
  | none => simp [hp] at h
  | some tok =>
    simp only [hp] at h
    by_cases hm : c.modeOf tok = .inert
    · simp only [hm, Mode.bne_eq, decide_true, Bool.not_true, Bool.false_eq_true, if_false] at h
      split at h
      · -- an unknown type suggests nothing
        split at h
        · simp at h
        · simp only [categorized_default, List.nil_append, List.head?_cons, Option.some.injEq] at h
          subst h
          simp [issueAt] at hrep
      · rename_i hknown
        simp only [categorized_default, List.nil_append, List.head?_cons, Option.some.injEq] at h
        subst h
        exact ⟨tok, rfl, hm, by simpa using hknown, hrep, rfl, rfl⟩
    · simp [hm] at h

/-- A class of known type whose mode is inert has a prefix. -/
theorem prefixName_ne_of_inert {c : Context} {tok : Token} (hm : c.modeOf tok = .inert)
    (hk : c.registry.knows tok.type = true) : tok.prefixName ≠ "" := by
  intro hp
  simp [Context.modeOf, hk, hp] at hm

/-- Under a breakpoint's name, a class of known type is a hover class when the name starts with
`hover`, and otherwise responsive, when there is a window. -/
theorem modeOf_withPrefix {c : Context} {tok : Token} {best : String}
    (hk : c.registry.knows tok.type = true) (hbest : best ≠ "") (hhas : c.breakpoints.has best = true)
    (hw : c.width.isSome = true) :
    c.modeOf { tok with prefixName := best } = if best.startsWith "hover" then .hover else .responsive := by
  have hne : best.isEmpty = false := by simpa using hbest
  simp only [Context.modeOf, hk, Bool.not_true, Bool.false_eq_true, if_false, hne, Token.isHover,
    hw, hhas, Bool.and_self, if_true]

/-! ## Where issues come from -/

theorem mem_fewSame {n : Nat} {is : List Issue} {i : Issue} (h : i ∈ fewSame n is) : i ∈ is := by
  unfold fewSame at h
  split at h
  · exact h
  · obtain ⟨⟨j, k⟩, hj, rfl⟩ := List.mem_map.1 h
    exact List.fst_mem_of_mem_zipIdx (List.mem_filter.1 hj).1

theorem mem_firstIssues {n : Nat} {is : List Issue} {i : Issue} (h : i ∈ firstIssues n is) :
    i ∈ is := by
  unfold firstIssues at h
  split at h
  · exact h
  · exact List.mem_of_mem_take h

/-- A reference read from a file is a reference of one of its lines. -/
theorem mem_scannedRefs {t : FileTree} {cwd base : String} {files : List String}
    {p : String × ClassRef} (hp : p ∈ scannedRefs t cwd base files) :
    ∃ line n, p.2 ∈ refsOfLine line n := by
  obtain ⟨file, -, hp⟩ := List.mem_flatMap.1 hp
  split at hp
  · rename_i refs hscan
    obtain ⟨text, -, htext⟩ := Option.map_eq_some_iff.1 hscan
    obtain ⟨ref, href, rfl⟩ := List.mem_map.1 hp
    unfold scanText at htext
    dsimp only at htext
    split at htext
    · cases htext
    · cases htext
      obtain ⟨⟨line, k⟩, -, hk⟩ := List.mem_flatMap.1 href
      exact ⟨line, k + 1, hk⟩
  · cases hp

/-- The limits keep some of the sorted issues, and sorting keeps them all. -/
theorem mem_of_mem_limited {cfg : LintConfig} {is : List Issue} {i : Issue}
    (h : i ∈ fewSame cfg.maxSameIssues (firstIssues cfg.maxIssuesPerLinter (sortIssues is))) :
    i ∈ is :=
  (List.mergeSort_perm _ _).mem_iff.1 (mem_firstIssues (mem_fewSame h))

/-- A successful lint run tallies the references of the files it selected, in its context, and
reports their issues sorted and limited, counting the issues the limits removed. -/
theorem lint_eq_ok_tallied {t : FileTree} {cwd : String} {cfg : LintConfig} {r : LintResult}
    {log : List LogEntry} (h : lint t cwd cfg = .ok (r, log)) :
    ∃ reg d, cfg.registry = some reg ∧ Batch.discover t cwd cfg.baseDir cfg.scanPaths = .ok d ∧
      Tallied ⟨reg, cfg.breakpoints.getD .defaults, some 1024⟩ cfg.strict r
        (scannedRefs t cwd cfg.baseDir d.files) ∧
      r.issues = fewSame cfg.maxSameIssues (firstIssues cfg.maxIssuesPerLinter (sortIssues r.categorized)) ∧
      r.truncatedCount = r.categorized.length - r.issues.length := by
  unfold lint at h
  split at h
  · cases h
  · rename_i reg hreg
    split at h
    · cases h
    · rename_i d hd
      set c : Context := ⟨reg, cfg.breakpoints.getD .defaults, some 1024⟩
      have hstart : Tallied c cfg.strict
          ⟨[], [], d.discovered, d.skipped, 0, 0, 0, 0, ⟨0, 0, 0, 0⟩, 0, 0, 0⟩ [] :=
        ⟨rfl, rfl, rfl, rfl, rfl, rfl⟩
      obtain ⟨⟨r', log'⟩, hfold⟩ : ∃ p, d.files.foldl (lintFile t cwd cfg c)
          (⟨[], [], d.discovered, d.skipped, 0, 0, 0, 0, ⟨0, 0, 0, 0⟩, 0, 0, 0⟩, []) = p := ⟨_, rfl⟩
      have htally : Tallied c cfg.strict r' (scannedRefs t cwd cfg.baseDir d.files) := by
        have : Tallied c cfg.strict (d.files.foldl (lintFile t cwd cfg c)
            (⟨[], [], d.discovered, d.skipped, 0, 0, 0, 0, ⟨0, 0, 0, 0⟩, 0, 0, 0⟩, [])).1
            ([] ++ scannedRefs t cwd cfg.baseDir d.files) := hstart.lintFiles [] d.files
        rwa [hfold, List.nil_append] at this
      dsimp only at h
      rw [hfold] at h
      dsimp only at h
      rw [limited_eq] at h
      simp only [Except.ok.injEq, Prod.mk.injEq] at h
      obtain ⟨rfl, -⟩ := h
      -- the counters the scan tallied are left as they are
      exact ⟨reg, d, hreg, hd, ⟨htally.classesFound, htally.utility, htally.resolved,
        htally.applied, htally.inert, htally.categorized⟩, rfl, rfl⟩

/-- Every issue a lint run reports is the issue of a reference read from a file it selected,
linted in the run's context: its registry, its breakpoints and a window of `1024` pixels. -/
theorem lint_issue_source {t : FileTree} {cwd : String} {cfg : LintConfig} {r : LintResult}
    {log : List LogEntry} (h : lint t cwd cfg = .ok (r, log)) :
    ∃ reg d, cfg.registry = some reg ∧ Batch.discover t cwd cfg.baseDir cfg.scanPaths = .ok d ∧
      ∀ i ∈ r.issues, ∃ p ∈ scannedRefs t cwd cfg.baseDir d.files,
        issueOf ⟨reg, cfg.breakpoints.getD .defaults, some 1024⟩ cfg.strict p.1 p.2 = some i := by
  obtain ⟨reg, d, hreg, hd, htally, hissues, -⟩ := lint_eq_ok_tallied h
  refine ⟨reg, d, hreg, hd, fun i hi => ?_⟩
  have hcat := mem_of_mem_limited (hissues ▸ hi)
  rw [htally.categorized] at hcat
  exact List.mem_filterMap.1 hcat

/-! ## The fix -/

/-- What the replacement `rep` of an issue `i` writes, under the context `c` it was made in. The
issue's line holds a class name at byte `column - 1`, and the replacement takes the name's bytes.
The name is its token's text with text before and after it. The replacement's text is the token
written out with a breakpoint's name as its prefix, and reads back with that prefix when the name
is a prefix word; the context classifies it as hover when the name starts with `hover`, and as
responsive otherwise. -/
def TokenFix (c : Context) (i : Issue) (rep : Replacement) : Prop :=
  ∃ (className : String) (tok : Token) (best : String) (pre post : List Char),
    i.sourceLines = [String.ofList (pre ++ className.toList ++ post)] ∧
    (String.ofList pre).utf8ByteSize = i.column - 1 ∧
    rep.inlineLength = className.utf8ByteSize ∧
    parseClass className = some tok ∧ (∃ a b, className.toList = a ++ tok.render.toList ++ b) ∧
    rep.newText = { tok with prefixName := best }.render ∧
    (IsPrefix best.toList → parseClass rep.newText = some { tok with prefixName := best }) ∧
    c.modeOf { tok with prefixName := best } =
      if best.startsWith "hover" then .hover else .responsive

end UtilityStyles.Lint
