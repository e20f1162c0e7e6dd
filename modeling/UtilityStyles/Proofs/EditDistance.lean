import Mathlib
import UtilityStyles.Lint.Basic
/-!
# Edit distance

`Lint.editDistance` fills the table of edit distances between the prefixes of two byte strings
one row at a time and keeps only the last row. This module proves that it is the Levenshtein
distance: the fewest single-byte deletions, insertions and substitutions that turn the first
string into the second, given by its recursive definition.

The recursive definition reads both strings from their first bytes, while the table grows the
prefixes at their last bytes. The bridge is `levenshtein_append_singleton`: the same recurrence
holds at the ends. Both sides of it unfold from the front into the same nine terms, so it
follows by induction on both strings.

The table's loops are folds over the bytes of the strings, paired with positions and with the
previous row. Row `i` holds the distances from the first `i` bytes of the first string to every
prefix of the second (`List.inits`); one pass of the inner loop turns row `i` into row `i + 1`
(`foldl_row`), and the outer loop repeats it (`foldl_rows`).

## Main definitions

* `levenshtein` : the distance by its recursive definition.

## Main statements

* `levenshtein_append_singleton` : the recurrence at the last elements.
* `editDistance_eq_levenshtein` : the table computes the distance, for all strings.
-/

namespace UtilityStyles.Lint

section Recursive

variable {α : Type} [DecidableEq α]

/-- The Levenshtein distance between two lists: deleting an element, inserting one and
substituting one for another cost one each, and substituting an element by itself costs
nothing. -/
def levenshtein : List α → List α → Nat
  | [], ys => ys.length
  | _ :: xs, [] => xs.length + 1
  | x :: xs, y :: ys =>
    min (min (levenshtein xs (y :: ys) + 1) (levenshtein (x :: xs) ys + 1))
      (levenshtein xs ys + if x = y then 0 else 1)

@[simp] theorem levenshtein_nil_left (ys : List α) : levenshtein [] ys = ys.length := by
  rw [levenshtein]

@[simp] theorem levenshtein_nil_right (xs : List α) : levenshtein xs [] = xs.length := by
  cases xs <;> simp [levenshtein]

theorem levenshtein_cons_cons (x y : α) (xs ys : List α) :
    levenshtein (x :: xs) (y :: ys) =
      min (min (levenshtein xs (y :: ys) + 1) (levenshtein (x :: xs) ys + 1))
        (levenshtein xs ys + if x = y then 0 else 1) := by
  rw [levenshtein]

/-- The recurrence at the last elements: the cheapest of deleting the last element of the first
list, inserting the last one of the second, and matching the two. -/
theorem levenshtein_append_singleton (xs ys : List α) (x y : α) :
    levenshtein (xs ++ [x]) (ys ++ [y]) =
      min (min (levenshtein xs (ys ++ [y]) + 1) (levenshtein (xs ++ [x]) ys + 1))
        (levenshtein xs ys + if x = y then 0 else 1) := by
  -- Unfolding the front of both sides gives the same nine candidates: the induction hypotheses
  -- rewrite the three front-first terms on the left, the front-first equation the three on the
  -- right.
  induction xs generalizing ys with
  | nil =>
    induction ys with
    | nil => simp [levenshtein_cons_cons]
    | cons y₀ ys ih =>
      simp only [List.nil_append] at ih ⊢
      simp only [List.cons_append, levenshtein_cons_cons]
      rw [ih]
      simp only [levenshtein_nil_left, List.length_cons, List.length_append, List.length_nil]
      omega
  | cons x₀ xs ihx =>
    induction ys with
    | nil =>
      have h := ihx []
      simp only [List.nil_append] at h ⊢
      simp only [List.cons_append, levenshtein_cons_cons]
      rw [h]
      simp only [levenshtein_nil_right, List.length_cons, List.length_append, List.length_nil]
      omega
    | cons y₀ ys ihy =>
      have h₁ := ihx (y₀ :: ys)
      have h₂ := ihx ys
      simp only [List.cons_append] at h₁ ihy
      simp only [List.cons_append, levenshtein_cons_cons]
      rw [h₁, ihy, h₂]
      simp only [← min_add_add_right]
      ac_rfl

end Recursive

section Table

/-- The first row of the table: the distances from the empty string to the prefixes of `ys`. -/
theorem map_length_inits (ys : List UInt8) :
    ys.inits.map List.length = List.range (ys.length + 1) := by
  induction ys with
  | nil => rfl
  | cons y ys ih =>
    rw [List.inits_cons, List.map_cons, List.map_map, List.length_cons, List.range_succ_eq_map,
      ← ih, List.map_map]
    rfl

theorem getLast?_inits {β : Type} (l : List β) : l.inits.getLast? = some l := by
  induction l with
  | nil => rfl
  | cons b l ih =>
    rw [List.inits_cons, List.getLast?_cons, List.getLast?_map, ih]
    rfl

theorem getLastD_map_inits (f : List UInt8 → Nat) (ys : List UInt8) :
    (ys.inits.map f).getLastD 0 = f ys := by
  rw [List.getLastD_eq_getLast?, List.getLast?_map, getLast?_inits]
  rfl

/-- A list paired with its own tail: consecutive entries of a row, as the inner loop reads
them. -/
theorem zip_tail_cons_cons {β : Type} (a b : β) (l : List β) :
    (a :: b :: l).zip (a :: b :: l).tail = (a, b) :: (b :: l).zip (b :: l).tail :=
  rfl

/-- One pass of the inner loop: from the distances of `xs` to the prefixes of `zs ++ ys`, it
extends the distances of `xs ++ [x]` to the prefixes of `zs` to those of `zs ++ ys`. The loop's
step is any function that appends the cheapest of a deletion (`up`), an insertion (the last entry
so far) and a match (`diag`). -/
theorem foldl_row (x : UInt8) (xs : List UInt8)
    (step : List Nat → UInt8 × (Nat × Nat) × Nat → List Nat)
    (hstep : ∀ cur y diag up k, step cur (y, (diag, up), k) =
      cur ++ [min (min (up + 1) (cur.getLastD 0 + 1)) (diag + if x == y then 0 else 1)])
    (ys zs : List UInt8) (k : Nat) :
    (ys.zip (((ys.inits.map fun p => levenshtein xs (zs ++ p)).zip
        (ys.inits.map fun p => levenshtein xs (zs ++ p)).tail).zipIdx k)).foldl step
      (zs.inits.map (levenshtein (xs ++ [x]))) =
      (zs ++ ys).inits.map (levenshtein (xs ++ [x])) := by
  induction ys generalizing zs k with
  | nil => simp
  | cons y ys ih =>
    -- The row starts with the distances to `zs` and to `zs ++ [y]`; the rest is the row of
    -- `zs ++ [y]`, which the induction hypothesis reads.
    have hrow : ((y :: ys).inits.map fun p => levenshtein xs (zs ++ p)) =
        levenshtein xs zs :: (ys.inits.map fun p => levenshtein xs ((zs ++ [y]) ++ p)) := by
      simp [Function.comp_def]
    have hnext : (ys.inits.map fun p => levenshtein xs ((zs ++ [y]) ++ p)) =
        levenshtein xs (zs ++ [y]) ::
          (ys.inits.map fun p => levenshtein xs ((zs ++ [y]) ++ p)).tail := by
      cases ys <;> simp
    have hcell : step (zs.inits.map (levenshtein (xs ++ [x])))
        (y, (levenshtein xs zs, levenshtein xs (zs ++ [y])), k) =
        (zs ++ [y]).inits.map (levenshtein (xs ++ [x])) := by
      rw [hstep, getLastD_map_inits, List.inits_append, List.map_append]
      simp [levenshtein_append_singleton, beq_iff_eq]
    rw [hrow, hnext, zip_tail_cons_cons, ← hnext, List.zipIdx_cons, List.zip_cons_cons,
      List.foldl_cons, hcell, ih (zs ++ [y]) (k + 1)]
    simp

/-- The inner loop started on a row, with the distance to the empty prefix. -/
theorem foldl_row_nil (x : UInt8) (xs : List UInt8)
    (step : List Nat → UInt8 × (Nat × Nat) × Nat → List Nat)
    (hstep : ∀ cur y diag up k, step cur (y, (diag, up), k) =
      cur ++ [min (min (up + 1) (cur.getLastD 0 + 1)) (diag + if x == y then 0 else 1)])
    (ys : List UInt8) :
    (ys.zip (((ys.inits.map (levenshtein xs)).zip
        (ys.inits.map (levenshtein xs)).tail).zipIdx)).foldl step [xs.length + 1] =
      ys.inits.map (levenshtein (xs ++ [x])) := by
  simpa using foldl_row x xs step hstep ys [] 0

/-- The outer loop: a fold over the bytes of `rest`, numbered from the length of the prefix
`xs` already read, whose step turns each row into the next, ends at the row of
`xs ++ rest`. -/
theorem foldl_rows (ys : List UInt8) (next : List Nat → UInt8 × Nat → List Nat)
    (hnext : ∀ xs x, next (ys.inits.map (levenshtein xs)) (x, xs.length) =
      ys.inits.map (levenshtein (xs ++ [x])))
    (rest xs : List UInt8) :
    (rest.zipIdx xs.length).foldl next (ys.inits.map (levenshtein xs)) =
      ys.inits.map (levenshtein (xs ++ rest)) := by
  induction rest generalizing xs with
  | nil => simp
  | cons x rest ih =>
    have hlen : xs.length + 1 = (xs ++ [x]).length := by simp
    rw [List.zipIdx_cons, List.foldl_cons, hnext, hlen, ih]
    simp

/-- The table of `editDistance` computes the Levenshtein distance between the bytes of the two
strings. -/
theorem editDistance_eq_levenshtein (a b : String) :
    editDistance a b = levenshtein a.toUTF8.toList b.toUTF8.toList := by
  have hfirst : List.range (b.toUTF8.toList.length + 1) =
      b.toUTF8.toList.inits.map (levenshtein ([] : List UInt8)) := by
    rw [← map_length_inits]
    simp
  have hstart : a.toUTF8.toList.zipIdx = a.toUTF8.toList.zipIdx ([] : List UInt8).length := rfl
  unfold editDistance
  dsimp only
  rw [hfirst, hstart, foldl_rows, List.nil_append, getLastD_map_inits]
  -- Each pass of the outer loop runs the inner loop on the row it is given.
  intro xs x
  exact foldl_row_nil x xs _ (fun _ _ _ _ _ => rfl) b.toUTF8.toList

end Table

end UtilityStyles.Lint
