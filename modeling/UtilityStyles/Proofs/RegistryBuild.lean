import UtilityStyles.Proofs.RegistryInvariant
/-!
# Building a registry skips exactly the refused entries

A registry is built from a table of types and property lists, and more types are defined from
loosely typed entries (a string, or a list of strings, per type). Both go through the entries in
sorted order of type. An entry is accepted when its type is not empty and it lists at least one
property name, none of them blank (`Registry.Accepts`); a loosely typed entry must list names
first, as a string or a list of strings.

What building leaves is what defining the accepted entries one after another leaves, each of
those definitions succeeding; a refused entry changes nothing, so a type that no accepted entry
names keeps its earlier definition. Each refused entry gives one error, in the entries' order,
naming its type, with the message of an invalid property definition (`Registry.BuiltFrom`).

## Main definitions

* `Registry.Accepts` : the entries a definition accepts.
* `Registry.accepted` : an entry's definition, when it is accepted.
* `DefinitionError.type` : the type an error is about.
* `Registry.BuiltFrom` : what building from entries leaves.

## Main statements

* `Registry.lookup_insertSorted` : a stored definition, read back.
* `Registry.builtFrom_defineEach` : defining entries in turn builds from them.
* `Registry.sortByKey_eq` : a table with distinct keys is sorted into its one increasing order.
* `Config.Value.stringList?_eq_some_iff` : the values that list names.
* `registry_building_skips_refused` : the table and the loosely typed entries.
-/

namespace UtilityStyles

namespace Registry

/-- What a definition accepts: a type that is not empty and a non-empty list of property names,
each with a character that is not blank. -/
def Accepts (type : String) (props : List String) : Prop :=
  type ≠ "" ∧ props ≠ [] ∧ ∀ p ∈ props, ∃ c ∈ p.toList, Text.isBlank c = false

/-- A definition passes the check exactly when it is accepted. -/
theorem check_eq_none_iff_accepts {type : String} {props : List String} :
    check type props = none ↔ Accepts type props := by
  rw [check_eq_none_iff, Accepts]
  -- a name is all blank exactly when no character of it is not blank
  have hblank : ∀ p : String, Text.isAllBlank p = false ↔ ∃ c ∈ p.toList, Text.isBlank c = false := by
    intro p
    simp [Text.isAllBlank]
  simp only [hblank]

instance (type : String) (props : List String) : Decidable (Accepts type props) :=
  decidable_of_iff _ check_eq_none_iff_accepts

/-- An entry's definition, when it lists names and they are accepted. -/
def accepted (e : String × Option (List String)) : Option (String × List String) :=
  match e.2 with
  | some props => if Accepts e.1 props then some (e.1, props) else none
  | none => none

/-! ## Stored definitions -/

theorem lookup_cons_ite (t q : String) (ps : List String) (rest : List (String × List String)) :
    ((t, ps) :: rest).lookup q = if q = t then some ps else rest.lookup q := by
  rw [List.lookup_cons]
  cases h : q == t
  · rw [if_neg (by simpa using h)]
  · rw [if_pos (by simpa using h)]

/-- Storing a definition makes its type read back the new list and keeps every other type. -/
theorem lookup_insertSorted (type : String) (props : List String)
    (defs : List (String × List String)) (q : String) :
    (insertSorted type props defs).lookup q = if q = type then some props else defs.lookup q := by
  induction defs with
  | nil => simp only [insertSorted, lookup_cons_ite]
  | cons d rest ih =>
    obtain ⟨t, ps⟩ := d
    unfold insertSorted
    split
    · -- stored in front
      rw [lookup_cons_ite]
    · split
      · -- replacing the earlier definition
        rename_i ht
        obtain rfl : type = t := by simpa using ht
        by_cases hq : q = type <;> simp [lookup_cons_ite, hq]
      · -- stored further on
        rename_i ht
        have ht : type ≠ t := by simpa using ht
        rw [lookup_cons_ite, ih, lookup_cons_ite]
        by_cases hq : q = t
        · subst hq
          simp [Ne.symm ht]
        · simp [hq]

theorem properties?_define {r r' : Registry} {type : String} {props : List String}
    (h : r.define type props = .ok r') (q : String) :
    r'.properties? q = if q = type then some props else r.properties? q := by
  unfold define at h
  split at h
  · cases h
  · cases h
    exact lookup_insertSorted type props r.definitions q

/-- Defining one after another: the last definition of a type wins, and a type that none of them
names keeps its definition. -/
theorem properties?_foldlM_define {r r' : Registry} {ds : List (String × List String)}
    (h : ds.foldlM (fun r d => r.define d.1 d.2) r = .ok r') (q : String)
    (hq : ∀ d ∈ ds, d.1 ≠ q) : r'.properties? q = r.properties? q := by
  induction ds generalizing r with
  | nil => cases h; rfl
  | cons d rest ih =>
    rw [List.foldlM_cons] at h
    cases hd : r.define d.1 d.2 with
    | error e => simp [hd, bind, Except.bind] at h
    | ok r₁ =>
      rw [hd] at h
      rw [ih h fun d' hd' => hq d' (List.mem_cons_of_mem _ hd'), properties?_define hd,
        if_neg fun h' => hq d List.mem_cons_self h'.symm]

end Registry

/-- The type an error is about: the entry's type, empty for an entry with an empty type. -/
def DefinitionError.type : DefinitionError → String
  | .emptyType => ""
  | .noProperties t | .blankProperty t | .notStringList t _ => t

/-- Every refused definition is reported as an invalid property definition. -/
theorem DefinitionError.message_invalid (e : DefinitionError) :
    ∃ rest, e.message = "invalid property definition: " ++ rest := by
  cases e with
  | emptyType => exact ⟨"empty type", by unfold DefinitionError.message; simp only [String.reduceAppend]⟩
  | noProperties t =>
    refine ⟨"type " ++ Text.quote t ++ " has no properties", ?_⟩
    unfold DefinitionError.message
    simp only [← String.append_assoc, String.reduceAppend]
  | blankProperty t =>
    refine ⟨"type " ++ Text.quote t ++ " has an empty property name", ?_⟩
    unfold DefinitionError.message
    simp only [← String.append_assoc, String.reduceAppend]
  | notStringList t k =>
    refine ⟨Text.quote t ++ " must be a string or a list of strings, got " ++ k, ?_⟩
    unfold DefinitionError.message
    simp only [String.append_assoc]

/-- The check's error names the type it refuses. -/
theorem Registry.type_of_check {type : String} {props : List String} {e : DefinitionError}
    (h : Registry.check type props = some e) : e.type = type := by
  unfold Registry.check at h
  split at h
  · rename_i ht
    cases h
    exact (String.isEmpty_iff.1 ht).symm
  · split at h
    · cases h
      rfl
    · split at h
      · cases h
        rfl
      · cases h

namespace Registry

theorem fst_of_accepted {e : String × Option (List String)} {d : String × List String}
    (h : accepted e = some d) : d.1 = e.1 := by
  obtain ⟨type, names⟩ := e
  cases names with
  | none => cases h
  | some props =>
    by_cases ha : Accepts type props
    · simp only [accepted, ha, if_true, Option.some.injEq] at h
      rw [← h]
    · simp [accepted, ha] at h

/-- What building a registry from entries, in order, leaves: the accepted entries are defined
one after another from the start, each definition succeeding, and give the registry; a type that
no accepted entry names keeps its definition; every other entry gives one error naming its type,
in the entries' order, and each error is an invalid property definition. An entry lists `none`
when its value is neither a string nor a list of strings. -/
structure BuiltFrom (start : Registry) (entries : List (String × Option (List String)))
    (result : Registry × List DefinitionError) : Prop where
  defines : (entries.filterMap accepted).foldlM (fun r d => r.define d.1 d.2) start = .ok result.1
  keeps : ∀ q, (∀ e ∈ entries, accepted e ≠ none → e.1 ≠ q) →
    result.1.properties? q = start.properties? q
  errors : result.2.map DefinitionError.type =
    ((entries.filter fun e => accepted e = none).map (·.1))
  invalid : ∀ e ∈ result.2, ∃ rest, e.message = "invalid property definition: " ++ rest

namespace BuiltFrom

variable {start : Registry} {e : String × Option (List String)}
  {rest : List (String × Option (List String))} {result : Registry × List DefinitionError}

/-- A refused entry in front gives one more error, naming its type, and nothing else. -/
theorem cons_refused (h : BuiltFrom start rest result) (he : accepted e = none)
    {err : DefinitionError} (htype : err.type = e.1) :
    BuiltFrom start (e :: rest) (result.1, err :: result.2) where
  defines := by
    rw [List.filterMap_cons_none he]
    exact h.defines
  keeps q hq := h.keeps q fun e' he' => hq e' (List.mem_cons_of_mem _ he')
  errors := by simp [he, htype, h.errors]
  invalid := List.forall_mem_cons.2 ⟨err.message_invalid, h.invalid⟩

/-- An accepted entry in front is defined first, and the rest build on what it left. -/
theorem cons_accepted {mid : Registry} {d : String × List String} (he : accepted e = some d)
    (hd : start.define d.1 d.2 = .ok mid) (h : BuiltFrom mid rest result) :
    BuiltFrom start (e :: rest) result where
  defines := by
    rw [List.filterMap_cons_some he, List.foldlM_cons, hd]
    exact h.defines
  keeps q hq := by
    have hne : d.1 ≠ q := fst_of_accepted he ▸ hq e List.mem_cons_self (by simp [he])
    rw [h.keeps q fun e' he' => hq e' (List.mem_cons_of_mem _ he'), properties?_define hd,
      if_neg (Ne.symm hne)]
  errors := by simp [he, h.errors]
  invalid := h.invalid

end BuiltFrom

/-- The names of an entry of `defineEach`: a refused value lists none. -/
def entryNames (e : String × Except DefinitionError (List String)) :
    String × Option (List String) :=
  (e.1, match e.2 with
    | .ok props => some props
    | .error _ => none)

/-- Defining entries in turn, each with its names or the error its value gave, builds from
them, when the value errors name the entries' types. -/
theorem builtFrom_defineEach (r : Registry)
    (es : List (String × Except DefinitionError (List String)))
    (hes : ∀ e ∈ es, ∀ err, e.2 = .error err → err.type = e.1) :
    BuiltFrom r (es.map entryNames) (r.defineEach es) := by
  induction es generalizing r with
  | nil => exact ⟨rfl, fun _ _ => rfl, rfl, by simp [defineEach]⟩
  | cons e rest ih =>
    obtain ⟨type, entry⟩ := e
    have hrest : ∀ e ∈ rest, ∀ err, e.2 = .error err → err.type = e.1 :=
      fun e he => hes e (List.mem_cons_of_mem _ he)
    rw [List.map_cons]
    cases entry with
    | error err =>
      -- a value that lists no names: one error, and the registry is left as it was
      exact (ih r hrest).cons_refused rfl (hes _ List.mem_cons_self err rfl)
    | ok props =>
      cases hc : check type props with
      | some err =>
        have hd : r.define type props = .error err := by simp [define, hc]
        have hstep : r.defineEach ((type, .ok props) :: rest) =
            ((r.defineEach rest).1, err :: (r.defineEach rest).2) := by
          simp [defineEach, hd]
        have hna : accepted (entryNames (type, .ok props)) = none := by
          simp [entryNames, accepted, ← check_eq_none_iff_accepts, hc]
        rw [hstep]
        exact (ih r hrest).cons_refused hna (type_of_check hc)
      | none =>
        have hd : r.define type props = .ok ⟨insertSorted type props r.definitions⟩ := by
          simp [define, hc]
        have hstep : r.defineEach ((type, .ok props) :: rest) =
            Registry.defineEach ⟨insertSorted type props r.definitions⟩ rest := by
          simp [defineEach, hd]
        have ha : accepted (entryNames (type, .ok props)) = some (type, props) := by
          simp [entryNames, accepted, check_eq_none_iff_accepts.1 hc]
        rw [hstep]
        exact BuiltFrom.cons_accepted ha hd (ih _ hrest)

/-! ## Sorted order -/

/-- In a table strictly sorted by key, two entries with one key are the same entry. -/
theorem eq_of_fst_eq_of_sorted {α : Type} {l : List (String × α)} (h : l.Pairwise (·.1 < ·.1))
    {a b : String × α} (ha : a ∈ l) (hb : b ∈ l) (hab : a.1 = b.1) : a = b := by
  induction l with
  | nil => cases ha
  | cons c rest ih =>
    rw [List.pairwise_cons] at h
    rcases List.mem_cons.1 ha with hac | har <;> rcases List.mem_cons.1 hb with hbc | hbr
    · rw [hac, hbc]
    · exact absurd hab (hac ▸ ne_of_lt (h.1 b hbr))
    · exact absurd hab.symm (hbc ▸ ne_of_lt (h.1 a har))
    · exact ih h.2 har hbr

/-- Sorting a table puts its entries in increasing order of key: when the keys are distinct,
that order is the only one. -/
theorem sortByKey_eq {α : Type} {table entries : List (String × α)}
    (hs : entries.Pairwise (·.1 < ·.1)) (hp : entries.Perm table) : sortByKey table = entries := by
  have hperm : (sortByKey table).Perm entries := (List.mergeSort_perm table _).trans hp.symm
  have hsorted : (sortByKey table).Pairwise fun a b => decide (a.1 ≤ b.1) := by
    refine List.pairwise_mergeSort ?_ ?_ table
    · intro a b c hab hbc
      simp only [decide_eq_true_eq] at *
      exact le_trans hab hbc
    · intro a b
      simpa using le_total a.1 b.1
  refine hperm.eq_of_pairwise (fun a b ha hb hab hba => ?_) hsorted
    (hs.imp fun h => by simpa using h.le)
  exact eq_of_fst_eq_of_sorted hs (hperm.subset ha) hb
    (le_antisymm (by simpa using hab) (by simpa using hba))

end Registry

/-! ## Loosely typed entries -/

namespace Config.Value

/-- A list of values lists strings exactly when every item is a string. -/
theorem strings?_eq_some_iff {items : List Value} {names : List String} :
    strings? items = some names ↔ items = names.map str := by
  induction items generalizing names with
  | nil => cases names <;> simp [strings?]
  | cons v rest ih =>
    cases v with
    | str s =>
      cases names with
      | nil => simp [strings?]
      | cons n names => simp [strings?, ih, eq_comm, and_comm]
    | _ => cases names <;> simp [strings?]

/-- A value lists names when it is a string, or a list of strings. -/
theorem stringList?_eq_some_iff {v : Value} {names : List String} :
    v.stringList? = some names ↔ (∃ s, v = str s ∧ names = [s]) ∨ v = list (names.map str) := by
  cases v with
  | str s => simp [stringList?, eq_comm]
  | list items => simp [stringList?, strings?_eq_some_iff]
  | _ => simp [stringList?]

end Config.Value

/-- The names of a loosely typed entry are what its value lists, and its error names its type. -/
theorem Registry.entryNames_entryProperties (type : String) (v : Config.Value) :
    Registry.entryNames (type, Registry.entryProperties type v) = (type, v.stringList?) ∧
      ∀ err, Registry.entryProperties type v = .error err → err.type = type := by
  unfold Registry.entryProperties
  cases v.stringList? with
  | some names => exact ⟨rfl, fun _ h => by cases h⟩
  | none => exact ⟨rfl, fun _ h => by cases h; rfl⟩

open Registry in
/-- Building a registry from a table, and defining loosely typed entries in a registry, each
build from the entries in increasing order of type: the accepted entries are defined one after
another, a refused one changes nothing, and each refused one gives one error, in that order. -/
theorem registry_building_skips_refused :
    (∀ table entries : List (String × List String), entries.Pairwise (·.1 < ·.1) →
      entries.Perm table → BuiltFrom empty (entries.map fun e => (e.1, some e.2)) (ofTable table)) ∧
    (∀ (r : Registry) (defs entries : List (String × Config.Value)),
      entries.Pairwise (·.1 < ·.1) → entries.Perm defs →
      BuiltFrom r (entries.map fun e => (e.1, e.2.stringList?)) (r.defineAll defs)) := by
  constructor
  · intro table entries hs hp
    have h := builtFrom_defineEach empty (entries.map fun e => (e.1, .ok e.2)) fun e he err herr => by
      obtain ⟨e', _, rfl⟩ := List.mem_map.1 he
      cases herr
    rw [List.map_map] at h
    rw [ofTable, sortByKey_eq hs hp]
    exact h
  · intro r defs entries hs hp
    have h := builtFrom_defineEach r (entries.map fun e => (e.1, entryProperties e.1 e.2))
      fun e he err herr => by
        obtain ⟨e', _, rfl⟩ := List.mem_map.1 he
        exact (entryNames_entryProperties e'.1 e'.2).2 err herr
    rw [List.map_map] at h
    simp only [Function.comp_def, (entryNames_entryProperties _ _).1] at h
    rw [defineAll, sortByKey_eq hs hp]
    exact h

theorem registry_building_skips_refused_mixed :
    let table : List (String × List String) := [("blur", ["filter"]), ("", ["color"])]
    let entries : List (String × List String) := [("", ["color"]), ("blur", ["filter"])]
    let defs : List (String × Config.Value) := [("ring", .str "box-shadow"), ("z", .int 1)]
    (entries.Pairwise (·.1 < ·.1) ∧ entries.Perm table ∧
      Registry.BuiltFrom .empty (entries.map fun e => (e.1, some e.2)) (Registry.ofTable table)) ∧
    (defs.Pairwise (·.1 < ·.1) ∧ defs.Perm defs ∧
      Registry.BuiltFrom .empty (defs.map fun e => (e.1, e.2.stringList?))
        (Registry.empty.defineAll defs)) := by
  intro table entries defs
  have hs : entries.Pairwise (·.1 < ·.1) := by
    rw [List.pairwise_pair, String.lt_iff_toList_lt]
    simp
  have hp : entries.Perm table := List.Perm.swap _ _ _
  have hs' : defs.Pairwise (·.1 < ·.1) := by
    rw [List.pairwise_pair, String.lt_iff_toList_lt]
    simp
    decide
  exact ⟨⟨hs, hp, registry_building_skips_refused.1 table entries hs hp⟩,
    ⟨hs', List.Perm.refl _, registry_building_skips_refused.2 _ defs defs hs' (List.Perm.refl _)⟩⟩

end UtilityStyles
