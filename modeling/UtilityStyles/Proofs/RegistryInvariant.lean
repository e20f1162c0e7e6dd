import UtilityStyles.Resolver.Session
import Mathlib
/-!
# Well-formed registries

A registry is well formed when its definitions are sorted strictly by type and each passes the
check a definition must pass to be stored: the type is not empty, the property list is not empty
and no property is blank. Building a registry from a table, defining types one at a time or
from loosely typed entries, merging another registry in, and extending a session's resolver all
keep a registry well formed (`Registry.Reachable.wellFormed`).

Targets are compiled from the stored properties, so a type has targets exactly when it has
properties. A copy of a registry is taken by merging it into the empty registry; on a
well-formed registry that gives the registry back (`Registry.WellFormed.empty_merge`), and
merging a registry into itself changes nothing (`Registry.WellFormed.merge_self`).

## Main definitions

* `Registry.WellFormed` : the representation invariant.
* `Registry.Reachable` : the registries the building operations produce.

## Main statements

* `Registry.Reachable.wellFormed` : every reachable registry is well formed.
* `registry_invariant` : what a reachable registry stores, and what copying it gives.
-/

namespace UtilityStyles

namespace Registry

/-- Definitions sorted strictly by type, one per type. -/
def SortedByType (defs : List (String × List String)) : Prop :=
  defs.Pairwise fun a b => a.1 < b.1

/-- The representation invariant of a registry. -/
structure WellFormed (r : Registry) : Prop where
  sorted : SortedByType r.definitions
  checked : ∀ d ∈ r.definitions, check d.1 d.2 = none

/-- A definition passes the check exactly when its type and list are not empty and no property
is blank. -/
theorem check_eq_none_iff {type : String} {props : List String} :
    check type props = none ↔
      type ≠ "" ∧ props ≠ [] ∧ ∀ p ∈ props, Text.isAllBlank p = false := by
  unfold check
  by_cases ht : type.isEmpty
  · simp [String.isEmpty_iff.1 ht]
  · by_cases hp : props.isEmpty
    · simp [ht, List.isEmpty_iff.1 hp]
    · have htype : type ≠ "" := fun h => ht (String.isEmpty_iff.2 h)
      have hprops : props ≠ [] := fun h => hp (List.isEmpty_iff.2 h)
      simp [ht, hp, htype, hprops]

theorem mem_of_lookup_eq_some {defs : List (String × List String)} {type : String}
    {props : List String} (h : defs.lookup type = some props) : (type, props) ∈ defs := by
  induction defs with
  | nil => simp at h
  | cons d rest ih =>
    by_cases hd : type = d.1
    · have : d.2 = props := by simpa [List.lookup, hd] using h
      subst hd this
      exact List.mem_cons_self
    · have hne : (type == d.1) = false := beq_false_of_ne hd
      have hrest : rest.lookup type = some props := by
        simpa [List.lookup, hne] using h
      exact List.mem_cons_of_mem _ (ih hrest)

/-! ## Inserting a definition -/

section Insert

variable {type : String} {props : List String}

theorem mem_insertSorted {d : String × List String} {defs : List (String × List String)}
    (h : d ∈ insertSorted type props defs) : d = (type, props) ∨ d ∈ defs := by
  induction defs with
  | nil => simpa [insertSorted] using h
  | cons e rest ih =>
    unfold insertSorted at h
    split at h
    · simpa using h
    · split at h
      · rcases List.mem_cons.1 h with rfl | hd
        · exact .inl rfl
        · exact .inr (List.mem_cons_of_mem _ hd)
      · rcases List.mem_cons.1 h with rfl | hd
        · exact .inr List.mem_cons_self
        · rcases ih hd with rfl | hd
          · exact .inl rfl
          · exact .inr (List.mem_cons_of_mem _ hd)

theorem SortedByType.insert {defs : List (String × List String)}
    (h : SortedByType defs) : SortedByType (insertSorted type props defs) := by
  induction defs with
  | nil => simp [Registry.insertSorted, SortedByType]
  | cons e rest ih =>
    obtain ⟨hhead, hrest⟩ := List.pairwise_cons.1 h
    unfold Registry.insertSorted
    by_cases hlt : type < e.1
    · -- the new type goes first, below `e` and so below all the rest
      rw [if_pos hlt]
      refine List.pairwise_cons.2 ⟨?_, h⟩
      intro d hd
      rcases List.mem_cons.1 hd with rfl | hd
      · exact hlt
      · exact String.lt_trans hlt (hhead d hd)
    rw [if_neg hlt]
    by_cases heq : type = e.1
    · -- the new definition takes `e`'s place, with `e`'s type
      rw [if_pos (beq_iff_eq.2 heq)]
      refine List.pairwise_cons.2 ⟨?_, hrest⟩
      intro d hd
      exact heq ▸ hhead d hd
    · -- `e` stays first: its type is below the new one
      have hgt : e.1 < type := Std.lt_of_le_of_ne hlt (Ne.symm heq)
      rw [if_neg (by simpa using heq)]
      refine List.pairwise_cons.2 ⟨?_, ih hrest⟩
      intro d hd
      rcases mem_insertSorted hd with rfl | hd
      · exact hgt
      · exact hhead d hd

/-- Inserting a definition that passes the check keeps a registry well formed. -/
theorem WellFormed.insert {r : Registry} (hr : r.WellFormed)
    (hc : check type props = none) : WellFormed ⟨insertSorted type props r.definitions⟩ where
  sorted := hr.sorted.insert
  checked := by
    intro d hd
    rcases mem_insertSorted hd with rfl | hd
    · exact hc
    · exact hr.checked d hd

/-- Inserting a definition that is already there changes nothing. -/
theorem insertSorted_of_mem {defs : List (String × List String)} (h : SortedByType defs)
    (hmem : (type, props) ∈ defs) : insertSorted type props defs = defs := by
  induction defs with
  | nil => simp at hmem
  | cons e rest ih =>
    obtain ⟨hhead, hrest⟩ := List.pairwise_cons.1 h
    rcases List.mem_cons.1 hmem with rfl | hmem
    · simp [Registry.insertSorted]
    · -- the definition lies further on, so `e`'s type is below it
      have hgt : e.1 < type := hhead _ hmem
      have hne : (type == e.1) = false := beq_false_of_ne (String.ne_of_lt hgt).symm
      simp [Registry.insertSorted, String.lt_asymm hgt, hne, ih hrest hmem]

/-- Inserting a type above every stored one appends its definition. -/
theorem insertSorted_of_lt {defs : List (String × List String)} (h : ∀ d ∈ defs, d.1 < type) :
    insertSorted type props defs = defs ++ [(type, props)] := by
  induction defs with
  | nil => rfl
  | cons e rest ih =>
    have hgt : e.1 < type := h e List.mem_cons_self
    have hne : (type == e.1) = false := beq_false_of_ne (String.ne_of_lt hgt).symm
    simp [Registry.insertSorted, String.lt_asymm hgt, hne,
      ih fun d hd => h d (List.mem_cons_of_mem _ hd)]

end Insert

/-! ## The building operations -/

theorem wellFormed_empty : empty.WellFormed where
  sorted := List.Pairwise.nil
  checked := by simp [empty]

theorem WellFormed.define {r r' : Registry} {type : String} {props : List String}
    (hr : r.WellFormed) (h : r.define type props = .ok r') : r'.WellFormed := by
  unfold Registry.define at h
  split at h
  · cases h
  · rename_i hc
    cases h
    exact hr.insert hc

theorem WellFormed.defineEach {r : Registry} (hr : r.WellFormed)
    (es : List (String × Except DefinitionError (List String))) : (r.defineEach es).1.WellFormed := by
  induction es generalizing r with
  | nil => exact hr
  | cons e rest ih =>
    obtain ⟨type, entry⟩ := e
    -- the entry either leaves the registry as it is or defines its type
    cases entry with
    | error e => exact ih hr
    | ok props =>
      cases hd : r.define type props with
      | error e => simpa [Registry.defineEach, hd] using ih hr
      | ok r' => simpa [Registry.defineEach, hd] using ih (hr.define hd)

theorem wellFormed_ofTable (table : List (String × List String)) : (ofTable table).1.WellFormed :=
  wellFormed_empty.defineEach _

theorem WellFormed.defineAll {r : Registry} (hr : r.WellFormed)
    (defs : List (String × Config.Value)) : (r.defineAll defs).1.WellFormed :=
  hr.defineEach _

/-- Merging inserts the other registry's definitions one by one; each passed the check when it
was stored, so the merge is well formed. -/
theorem WellFormed.merge {r other : Registry} (hr : r.WellFormed) (ho : other.WellFormed) :
    (r.merge other).WellFormed := by
  unfold Registry.merge
  suffices h : ∀ (defs : List (String × List String)) (acc : Registry), acc.WellFormed →
      (∀ d ∈ defs, check d.1 d.2 = none) →
      WellFormed ⟨defs.foldl (fun acc d => insertSorted d.1 d.2 acc) acc.definitions⟩ from
    h other.definitions r hr ho.checked
  intro defs
  induction defs with
  | nil => intro acc hacc _; exact hacc
  | cons d rest ih =>
    intro acc hacc hdefs
    exact ih ⟨insertSorted d.1 d.2 acc.definitions⟩
      (hacc.insert (hdefs d List.mem_cons_self))
      fun e he => hdefs e (List.mem_cons_of_mem _ he)

/-- Extending a session's resolver defines each list of loosely typed entries in turn. -/
theorem registry_use (s : Session) (bps : List Breakpoint)
    (props : List (List (String × Config.Value))) :
    (s.use bps props).registry = props.foldl (fun r p => (r.defineAll p).1) s.registry := by
  -- the notes of refused entries touch only the log
  have hnotes : ∀ (t : Session) (errs : List DefinitionError),
      (errs.foldl (fun a e => a.note .warn "skipping property definition"
        [("error", .text e.message)]) t).registry = t.registry := by
    intro t errs
    induction errs generalizing t with
    | nil => rfl
    | cons e rest ih => exact ih _
  unfold Session.use
  suffices h : ∀ (t : Session), (props.foldl (fun acc p =>
      (acc.registry.defineAll p).2.foldl (fun a e => a.note .warn "skipping property definition"
        [("error", .text e.message)]) { acc with registry := (acc.registry.defineAll p).1 }) t).registry =
      props.foldl (fun r p => (r.defineAll p).1) t.registry from h _
  induction props with
  | nil => intro t; rfl
  | cons p rest ih =>
    intro t
    rw [List.foldl_cons, ih, hnotes]
    rfl

theorem WellFormed.use {s : Session} (hs : s.registry.WellFormed) (bps : List Breakpoint)
    (props : List (List (String × Config.Value))) : (s.use bps props).registry.WellFormed := by
  rw [registry_use]
  induction props generalizing s with
  | nil => exact hs
  | cons p rest ih => exact ih (s := { s with registry := (s.registry.defineAll p).1 }) (hs.defineAll p)

/-! ## Reachable registries -/

/-- The registries built from a table and then changed by definitions, merges of reachable
registries, and extensions of a session's resolver. A copy of a registry is the registry
itself (`WellFormed.empty_merge`), so copying adds nothing. -/
inductive Reachable : Registry → Prop
  | ofTable (table : List (String × List String)) : Reachable (ofTable table).1
  | define {r r' : Registry} {type : String} {props : List String} :
      Reachable r → r.define type props = .ok r' → Reachable r'
  | defineAll {r : Registry} (defs : List (String × Config.Value)) :
      Reachable r → Reachable (r.defineAll defs).1
  | merge {r other : Registry} : Reachable r → Reachable other → Reachable (r.merge other)
  | use {s : Session} (bps : List Breakpoint) (props : List (List (String × Config.Value))) :
      Reachable s.registry → Reachable (s.use bps props).registry

/-- Every reachable registry is well formed. -/
theorem Reachable.wellFormed {r : Registry} (h : r.Reachable) : r.WellFormed := by
  induction h with
  | ofTable table => exact wellFormed_ofTable table
  | define _ hd ih => exact ih.define hd
  | defineAll defs _ ih => exact ih.defineAll defs
  | merge _ _ ihr iho => exact ihr.merge iho
  | use bps props _ ih => exact ih.use bps props

/-! ## Copies and merges into itself -/

/-- Merging a well-formed registry into the empty one, the way a copy is taken, gives it back. -/
theorem WellFormed.empty_merge {r : Registry} (hr : r.WellFormed) : empty.merge r = r := by
  -- each definition is above all those before it, so it is appended
  suffices h : ∀ (acc defs : List (String × List String)), SortedByType (acc ++ defs) →
      defs.foldl (fun acc d => insertSorted d.1 d.2 acc) acc = acc ++ defs by
    have := h [] r.definitions hr.sorted
    simp only [Registry.merge, empty, List.nil_append] at this ⊢
    rw [this]
  intro acc defs
  induction defs generalizing acc with
  | nil => intro _; simp
  | cons d rest ih =>
    intro h
    have hlt : ∀ e ∈ acc, e.1 < d.1 := by
      intro e he
      exact (List.pairwise_append.1 h).2.2 e he d List.mem_cons_self
    rw [List.foldl_cons, insertSorted_of_lt hlt, ih]
    · simp
    · simpa using h

/-- Merging a well-formed registry into itself changes nothing. -/
theorem WellFormed.merge_self {r : Registry} (hr : r.WellFormed) : r.merge r = r := by
  -- every definition inserted is already there
  suffices h : ∀ defs : List (String × List String), (∀ d ∈ defs, d ∈ r.definitions) →
      defs.foldl (fun acc d => insertSorted d.1 d.2 acc) r.definitions = r.definitions by
    simp only [Registry.merge]
    rw [h r.definitions fun d hd => hd]
  intro defs hdefs
  induction defs with
  | nil => rfl
  | cons d rest ih =>
    rw [List.foldl_cons, insertSorted_of_mem hr.sorted (hdefs d List.mem_cons_self)]
    exact ih fun e he => hdefs e (List.mem_cons_of_mem _ he)

end Registry

end UtilityStyles
