import UtilityStyles.Settings.Build
import Mathlib
/-!
# Which layer a setting is read from

The settings of a run are the layers merged in order (`Store.load`): a layer's map meets an
existing map member by member, and any other value replaces what was there. A setting is read
under two names, its flat name (`output-dir`) and its name inside a section
(`apply.output-dir`), and the getters (`Store.boolOr`, `Store.intOr`, `Store.stringOr`) try the
flat name first.

So the merged settings give each of the two names the value of the highest layer that sets that
name, and the flat name is read first whatever layer sets it: a flat name in the settings file
wins over the sectioned name in the environment or the flags.

The layers are taken as the settings file's reader and the other layers build them: keys are
distinct, the setting holds a scalar, and its section, where there is one, is a map.

## Main definitions

* `valueAt`, `sectionAt`, `nestedAt` : the value of a key, at the top and inside a section.
* `SettingLayer` : a layer in which one setting is read as the layer says.
* `topLayer` : the highest layer that sets a name.

## Main statements

* `valueAt_mergeMembers`, `nestedAt_mergeMembers` : merging takes a key member by member.
* `node?_load_flat`, `node?_load_nested` : the merged settings read a name as the highest layer
  that sets it.
* `settings_flat_name_first` : what the getters read.
-/

namespace UtilityStyles.Settings

open UtilityStyles.Config (Value)

/-! ## The value of a key -/

/-- The value a map gives a key: that of its first member under the key. -/
def valueAt (ms : List (String × Value)) (k : String) : Option Value :=
  (ms.find? (·.1 == k)).map (·.2)

@[simp] theorem valueAt_nil (k : String) : valueAt [] k = none := rfl

@[simp] theorem valueAt_cons (k' : String) (v : Value) (ms : List (String × Value)) (k : String) :
    valueAt ((k', v) :: ms) k = if k' = k then some v else valueAt ms k := by
  by_cases h : k' = k <;> simp [valueAt, h]

theorem valueAt_append (ms ns : List (String × Value)) (k : String) :
    valueAt (ms ++ ns) k = (valueAt ms k).or (valueAt ns k) := by
  induction ms with
  | nil => simp
  | cons m ms ih =>
    obtain ⟨k', v⟩ := m
    by_cases h : k' = k <;> simp [h, ih]

theorem valueAt_eq_none_of_not_mem {ms : List (String × Value)} {k : String}
    (h : k ∉ ms.map Prod.fst) : valueAt ms k = none := by
  induction ms with
  | nil => rfl
  | cons m ms ih =>
    obtain ⟨k', v⟩ := m
    simp only [List.map_cons, List.mem_cons, not_or] at h
    simp [Ne.symm h.1, ih h.2]

/-! ## Putting and merging members -/

/-- Every member under `k'` takes the value `v`. -/
theorem valueAt_map_replace (ms : List (String × Value)) (k' : String) (v : Value) (k : String) :
    valueAt (ms.map fun x => if x.1 = k' then (x.1, v) else x) k =
      if k' = k ∧ k' ∈ ms.map Prod.fst then some v else valueAt ms k := by
  induction ms with
  | nil => simp
  | cons m ms ih =>
    obtain ⟨k'', v'⟩ := m
    by_cases h₁ : k'' = k'
    · subst h₁
      by_cases h₂ : k'' = k <;> simp [h₂, ih]
    · by_cases h₂ : k'' = k
      · subst h₂
        simp [h₁, Ne.symm h₁]
      · simp only [List.map_cons, h₁, if_false, valueAt_cons, h₂, ih, List.mem_cons,
          Ne.symm h₁, false_or]

theorem valueAt_setMember (ms : List (String × Value)) (k' : String) (v : Value) (k : String) :
    valueAt (setMember ms k' v) k = if k' = k then some v else valueAt ms k := by
  unfold setMember
  split
  · -- the key is there: every member under it takes the new value
    rename_i hany
    have hmem : k' ∈ ms.map Prod.fst := by simpa using hany
    simpa [hmem] using valueAt_map_replace ms k' v k
  · -- the key is new: it goes last
    rename_i hany
    have hnone : valueAt ms k' = none :=
      valueAt_eq_none_of_not_mem (by simpa using hany)
    by_cases h : k' = k
    · subst h
      simp [valueAt_append, hnone]
    · simp [valueAt_append, h]

theorem keys_setMember (ms : List (String × Value)) (k : String) (v : Value) :
    (setMember ms k v).map Prod.fst =
      if k ∈ ms.map Prod.fst then ms.map Prod.fst else ms.map Prod.fst ++ [k] := by
  unfold setMember
  by_cases h : k ∈ ms.map Prod.fst
  · have hany : (ms.any fun x => x.1 == k) = true := by simpa using h
    simp only [hany, if_true, h, List.map_map]
    congr 1
    funext x
    by_cases hx : x.1 = k <;> simp [hx]
  · have hany : (ms.any fun x => x.1 == k) = false :=
      List.any_eq_false.2 fun x hx hxk => h (List.mem_map.2 ⟨x, hx, by simpa using hxk⟩)
    simp [hany, h]

/-- One member of a layer put into the existing members: merged over the member under its key,
or added last. -/
def putMember (existing : List (String × Value)) (k : String) (v : Value) :
    List (String × Value) :=
  match existing.find? (·.1 == k) with
  | some (_, old) => setMember existing k (mergeValue v old)
  | none => existing ++ [(k, v)]

theorem mergeMembers_nil (existing : List (String × Value)) :
    mergeMembers [] existing = existing := by
  rw [mergeMembers]

theorem mergeMembers_cons (k : String) (v : Value) (rest existing : List (String × Value)) :
    mergeMembers ((k, v) :: rest) existing = mergeMembers rest (putMember existing k v) := by
  rw [mergeMembers.eq_2]
  rfl

theorem mergeValue_map_map (incoming existing : List (String × Value)) :
    mergeValue (.map incoming) (.map existing) = .map (mergeMembers incoming existing) := by
  rw [mergeValue]

/-- A value other than a map replaces what was there. -/
theorem mergeValue_of_ne_map {v : Value} (hv : ∀ ms, v ≠ .map ms) (old : Value) :
    mergeValue v old = v := by
  cases v with
  | map ms => exact absurd rfl (hv ms)
  | _ => rw [mergeValue]; simp

theorem valueAt_putMember (existing : List (String × Value)) (k' : String) (v : Value)
    (k : String) :
    valueAt (putMember existing k' v) k =
      if k' = k then Option.merge mergeValue (some v) (valueAt existing k)
      else valueAt existing k := by
  unfold putMember
  split
  · rename_i k₀ old hfind
    have hold : valueAt existing k' = some old := by simp [valueAt, hfind]
    rw [valueAt_setMember]
    by_cases h : k' = k
    · subst h
      simp [hold, Option.merge]
    · simp [h]
  · rename_i hfind
    have hnone : valueAt existing k' = none := by simp [valueAt, hfind]
    by_cases h : k' = k
    · subst h
      simp [valueAt_append, hnone, Option.merge]
    · simp [valueAt_append, h]

theorem keys_putMember (existing : List (String × Value)) (k : String) (v : Value) :
    (putMember existing k v).map Prod.fst =
      if k ∈ existing.map Prod.fst then existing.map Prod.fst
      else existing.map Prod.fst ++ [k] := by
  unfold putMember
  split
  · rename_i k₀ old hfind
    have hmem : k ∈ existing.map Prod.fst := by
      have := List.mem_of_find?_eq_some hfind
      have hk := List.find?_some hfind
      simp only [beq_iff_eq] at hk
      exact List.mem_map.2 ⟨_, this, hk⟩
    simp [keys_setMember, hmem]
  · rename_i hfind
    have hmem : k ∉ existing.map Prod.fst := fun hk => by
      obtain ⟨m, hm, rfl⟩ := List.mem_map.1 hk
      exact List.find?_eq_none.1 hfind m hm (by simp)
    simp [hmem]

theorem mem_keys_putMember {existing : List (String × Value)} {k : String} {v : Value}
    {x : String} : x ∈ (putMember existing k v).map Prod.fst ↔ x = k ∨ x ∈ existing.map Prod.fst := by
  rw [keys_putMember]
  split
  · rename_i h
    constructor
    · exact Or.inr
    · rintro (rfl | hx)
      · exact h
      · exact hx
  · simp [or_comm]

theorem nodup_keys_putMember {existing : List (String × Value)} (h : (existing.map Prod.fst).Nodup)
    (k : String) (v : Value) : ((putMember existing k v).map Prod.fst).Nodup := by
  rw [keys_putMember]
  split
  · exact h
  · rename_i hk
    exact h.append (List.nodup_singleton k) (by simpa using hk)

/-- Merging a layer takes each key on its own: the layer's value is merged over the existing
one. -/
theorem valueAt_mergeMembers {L : List (String × Value)} (hL : (L.map Prod.fst).Nodup)
    (E : List (String × Value)) (k : String) :
    valueAt (mergeMembers L E) k = Option.merge mergeValue (valueAt L k) (valueAt E k) := by
  induction L generalizing E with
  | nil =>
    rw [mergeMembers_nil]
    cases valueAt E k <;> rfl
  | cons m rest ih =>
    obtain ⟨k', v⟩ := m
    simp only [List.map_cons, List.nodup_cons] at hL
    rw [mergeMembers_cons, ih hL.2, valueAt_putMember, valueAt_cons]
    by_cases h : k' = k
    · -- the rest of the layer has no member under the key
      subst h
      have hnone : valueAt rest k' = none := valueAt_eq_none_of_not_mem hL.1
      cases valueAt E k' <;> simp [hnone, Option.merge]
    · simp [h]

theorem mem_keys_mergeMembers {L E : List (String × Value)} {x : String} :
    x ∈ (mergeMembers L E).map Prod.fst ↔ x ∈ L.map Prod.fst ∨ x ∈ E.map Prod.fst := by
  induction L generalizing E with
  | nil => simp [mergeMembers_nil]
  | cons m rest ih =>
    obtain ⟨k', v⟩ := m
    rw [mergeMembers_cons, ih, mem_keys_putMember]
    simp only [List.map_cons, List.mem_cons]
    tauto

theorem nodup_keys_mergeMembers (L : List (String × Value)) {E : List (String × Value)}
    (hE : (E.map Prod.fst).Nodup) : ((mergeMembers L E).map Prod.fst).Nodup := by
  induction L generalizing E with
  | nil => simpa [mergeMembers_nil] using hE
  | cons m rest ih =>
    obtain ⟨k', v⟩ := m
    rw [mergeMembers_cons]
    exact ih (nodup_keys_putMember hE k' v)

/-! ## Sections -/

/-- The members of the section a map holds under a key, when it holds a map there. -/
def sectionAt (ms : List (String × Value)) (s : String) : Option (List (String × Value)) :=
  match valueAt ms s with
  | some (.map sub) => some sub
  | _ => none

/-- The value a map gives a key inside a section. -/
def nestedAt (ms : List (String × Value)) (s k : String) : Option Value :=
  (sectionAt ms s).bind fun sub => valueAt sub k

@[simp] theorem nestedAt_nil (s k : String) : nestedAt [] s k = none := rfl

theorem nestedAt_of_valueAt_map {ms sub : List (String × Value)} {s : String}
    (h : valueAt ms s = some (.map sub)) (k : String) : nestedAt ms s k = valueAt sub k := by
  simp [nestedAt, sectionAt, h]

theorem nestedAt_of_valueAt_none {ms : List (String × Value)} {s : String}
    (h : valueAt ms s = none) (k : String) : nestedAt ms s k = none := by
  simp [nestedAt, sectionAt, h]

theorem nestedAt_of_valueAt_ne_map {ms : List (String × Value)} {s : String} {v : Value}
    (h : valueAt ms s = some v) (hv : ∀ sub, v ≠ .map sub) (k : String) : nestedAt ms s k = none := by
  unfold nestedAt sectionAt
  rw [h]
  split
  · rename_i sub heq
    exact absurd (Option.some.inj heq) (hv sub)
  · rfl

theorem nestedAt_cons_of_ne {k' s : String} (h : k' ≠ s) (v : Value) (rest : List (String × Value))
    (k : String) : nestedAt ((k', v) :: rest) s k = nestedAt rest s k := by
  simp [nestedAt, sectionAt, h]

/-- Merging a layer whose section under `s` is a map, over members whose section is a map too,
merges the two sections key by key. -/
theorem nestedAt_mergeMembers {L E : List (String × Value)} {s : String}
    (hL : (L.map Prod.fst).Nodup)
    (hLs : ∀ v ∈ valueAt L s, ∃ sub, v = .map sub ∧ (sub.map Prod.fst).Nodup)
    (hEs : ∀ v ∈ valueAt E s, ∃ sub, v = .map sub) (k : String) :
    nestedAt (mergeMembers L E) s k = Option.merge mergeValue (nestedAt L s k) (nestedAt E s k) ∧
      ∀ v ∈ valueAt (mergeMembers L E) s, ∃ sub, v = .map sub := by
  have hm := valueAt_mergeMembers hL E s
  rcases hl : valueAt L s with _ | v
  · rcases he : valueAt E s with _ | w
    · have hmn : valueAt (mergeMembers L E) s = none := by simp [hm, hl, he, Option.merge]
      simp [nestedAt_of_valueAt_none hmn, nestedAt_of_valueAt_none hl,
        nestedAt_of_valueAt_none he, hmn, Option.merge]
    · obtain ⟨b, rfl⟩ := hEs _ he
      have hmb : valueAt (mergeMembers L E) s = some (.map b) := by simp [hm, hl, he, Option.merge]
      rw [nestedAt_of_valueAt_map hmb, nestedAt_of_valueAt_none hl, nestedAt_of_valueAt_map he, hmb]
      exact ⟨by cases valueAt b k <;> rfl, by simp⟩
  · obtain ⟨a, rfl, ha⟩ := hLs _ hl
    rcases he : valueAt E s with _ | w
    · have hma : valueAt (mergeMembers L E) s = some (.map a) := by simp [hm, hl, he, Option.merge]
      rw [nestedAt_of_valueAt_map hma, nestedAt_of_valueAt_map hl, nestedAt_of_valueAt_none he, hma]
      exact ⟨by cases valueAt a k <;> rfl, by simp⟩
    · -- both sections are maps: they merge member by member
      obtain ⟨b, rfl⟩ := hEs _ he
      have hmab : valueAt (mergeMembers L E) s = some (.map (mergeMembers a b)) := by
        simp [hm, hl, he, Option.merge, mergeValue_map_map]
      rw [nestedAt_of_valueAt_map hmab, nestedAt_of_valueAt_map hl, nestedAt_of_valueAt_map he,
        hmab, valueAt_mergeMembers ha]
      exact ⟨rfl, by simp⟩

/-! ## Layers merged in order -/

/-- A value that is no map replaces what it is merged over. -/
theorem merge_eq_or {o : Option Value} (ho : ∀ v ∈ o, ∀ ms, v ≠ .map ms) (p : Option Value) :
    Option.merge mergeValue o p = o.or p := by
  rcases o with _ | v
  · cases p <;> rfl
  · cases p with
    | none => rfl
    | some w => simp [Option.merge, mergeValue_of_ne_map (ho v rfl)]

/-- A view of the members that merging takes layer over layer, where no layer shows a map: the
merged layers show what the highest layer that shows anything shows. `Q` is what the merged
members keep, `P` what each layer brings. -/
theorem view_foldl_mergeMembers {V : List (String × Value) → Option Value}
    {P Q : List (String × Value) → Prop}
    (hstep : ∀ L E, P L → Q E →
      V (mergeMembers L E) = Option.merge mergeValue (V L) (V E) ∧ Q (mergeMembers L E))
    {layers : List (List (String × Value))} (hP : ∀ L ∈ layers, P L)
    (hscalar : ∀ L ∈ layers, ∀ v ∈ V L, ∀ ms, v ≠ .map ms)
    {E : List (String × Value)} (hE : Q E) :
    V (layers.foldl (fun acc L => mergeMembers L acc) E) = (layers.reverse.findSome? V).or (V E) := by
  induction layers generalizing E with
  | nil => simp
  | cons L Ls ih =>
    obtain ⟨hV, hQ⟩ := hstep L E (hP L (by simp)) hE
    rw [List.foldl_cons, ih (fun L' h => hP L' (by simp [h])) (fun L' h => hscalar L' (by simp [h])) hQ,
      hV, merge_eq_or (hscalar L (by simp))]
    simp [List.findSome?_append, Option.or_assoc]

/-- The settings merged from layers. -/
theorem load_members (layers : List (List (String × Value))) :
    (Store.load layers).members = layers.foldl (fun acc L => mergeMembers L acc) [] := rfl

theorem mem_keys_foldl_mergeMembers {layers : List (List (String × Value))}
    {E : List (String × Value)} {x : String} :
    x ∈ (layers.foldl (fun acc L => mergeMembers L acc) E).map Prod.fst ↔
      x ∈ E.map Prod.fst ∨ ∃ L ∈ layers, x ∈ L.map Prod.fst := by
  induction layers generalizing E with
  | nil => simp
  | cons L Ls ih =>
    rw [List.foldl_cons, ih, mem_keys_mergeMembers]
    simp only [List.mem_cons, exists_eq_or_imp]
    tauto

theorem nodup_keys_foldl_mergeMembers (layers : List (List (String × Value)))
    {E : List (String × Value)} (hE : (E.map Prod.fst).Nodup) :
    ((layers.foldl (fun acc L => mergeMembers L acc) E).map Prod.fst).Nodup := by
  induction layers generalizing E with
  | nil => simpa using hE
  | cons L Ls ih => exact ih (nodup_keys_mergeMembers L hE)

/-- A layer in which the setting `key`, at the top or inside the section `sect`, is read as the
layer writes it: its keys are distinct and none is the dotted name `sect.key` itself; it holds no
map under `key`; under `sect` it holds a map, if anything, with distinct keys and no map under
`key`. The settings file's reader refuses repeated keys, and the environment and the flags give
each name once. -/
structure SettingLayer (sect key : String) (L : List (String × Value)) : Prop where
  nodup : (L.map Prod.fst).Nodup
  not_dotted : sect ++ "." ++ key ∉ L.map Prod.fst
  flat_scalar : ∀ v ∈ valueAt L key, ∀ ms, v ≠ .map ms
  section_map : ∀ v ∈ valueAt L sect, ∃ sub, v = .map sub ∧ (sub.map Prod.fst).Nodup
  nested_scalar : ∀ v ∈ nestedAt L sect key, ∀ ms, v ≠ .map ms

section Load

variable {sect key : String} {layers : List (List (String × Value))}

/-- Merged, the layers give the setting's flat name the value of the highest layer that gives it
one. -/
theorem valueAt_load (hl : ∀ L ∈ layers, SettingLayer sect key L) :
    valueAt (Store.load layers).members key = layers.reverse.findSome? (valueAt · key) := by
  have h := view_foldl_mergeMembers (V := (valueAt · key)) (P := fun L => (L.map Prod.fst).Nodup)
    (Q := fun _ => True) (fun L E hL _ => ⟨valueAt_mergeMembers hL E key, trivial⟩)
    (fun L hL => (hl L hL).nodup) (fun L hL => (hl L hL).flat_scalar) (E := []) trivial
  simpa [load_members] using h

/-- Merged, the layers give the setting's name in its section the value of the highest layer that
gives it one. -/
theorem nestedAt_load (hl : ∀ L ∈ layers, SettingLayer sect key L) :
    nestedAt (Store.load layers).members sect key =
      layers.reverse.findSome? (nestedAt · sect key) := by
  have h := view_foldl_mergeMembers (V := (nestedAt · sect key))
    (P := fun L => SettingLayer sect key L) (Q := fun E => ∀ v ∈ valueAt E sect, ∃ sub, v = .map sub)
    (fun L E hL hE => nestedAt_mergeMembers hL.nodup hL.section_map hE key) hl
    (fun L hL => (hl L hL).nested_scalar) (E := []) (by simp)
  simpa [load_members] using h

theorem nodup_keys_load : ((Store.load layers).members.map Prod.fst).Nodup :=
  nodup_keys_foldl_mergeMembers layers (by simp)

theorem not_dotted_load (hl : ∀ L ∈ layers, SettingLayer sect key L) :
    sect ++ "." ++ key ∉ (Store.load layers).members.map Prod.fst := by
  rw [load_members, mem_keys_foldl_mergeMembers]
  rintro (h | ⟨L, hL, h⟩)
  · simp at h
  · exact (hl L hL).not_dotted h

end Load

/-! ## Dotted names -/

theorem node?_eq_find? (st : Store) (name : String) :
    st.node? name =
      ((memberPaths st.members).find? fun e => ".".intercalate e.1 == name).map (·.2) := rfl

theorem memberPaths_nil : memberPaths [] = [] := by
  rw [memberPaths]

theorem memberPaths_cons (k : String) (v : Value) (rest : List (String × Value)) :
    memberPaths ((k, v) :: rest) =
      ([k], v) :: ((valuePaths v).map fun e => (k :: e.1, e.2)) ++ memberPaths rest := by
  rw [memberPaths.eq_2]

theorem valuePaths_map (ms : List (String × Value)) : valuePaths (.map ms) = memberPaths ms := by
  rw [valuePaths]

theorem valuePaths_of_ne_map {v : Value} (hv : ∀ ms, v ≠ .map ms) : valuePaths v = [] := by
  cases v with
  | map ms => exact absurd rfl (hv ms)
  | _ => rw [valuePaths]; simp

/-- Every path below a map starts with one of its keys. -/
theorem exists_head_of_mem_memberPaths {ms : List (String × Value)} {e : List String × Value}
    (he : e ∈ memberPaths ms) : ∃ k q, e.1 = k :: q ∧ k ∈ ms.map Prod.fst := by
  induction ms with
  | nil => simp [memberPaths_nil] at he
  | cons m rest ih =>
    obtain ⟨k, v⟩ := m
    rw [memberPaths_cons] at he
    simp only [List.mem_cons, List.mem_append, List.mem_map] at he
    rcases he with (rfl | ⟨e', -, rfl⟩) | he
    · exact ⟨k, [], rfl, by simp⟩
    · exact ⟨k, e'.1, rfl, by simp⟩
    · obtain ⟨k', q, hq, hk'⟩ := ih he
      exact ⟨k', q, hq, List.mem_cons_of_mem _ hk'⟩

theorem ne_nil_of_mem_valuePaths {v : Value} {e : List String × Value} (he : e ∈ valuePaths v) :
    e.1 ≠ [] := by
  by_cases hv : ∃ ms, v = .map ms
  · obtain ⟨ms, rfl⟩ := hv
    rw [valuePaths_map] at he
    obtain ⟨k, q, hq, -⟩ := exists_head_of_mem_memberPaths he
    simp [hq]
  · rw [valuePaths_of_ne_map (by simpa using hv)] at he
    simp at he

theorem join_cons_of_ne_nil (k : String) {q : List String} (hq : q ≠ []) :
    ".".intercalate (k :: q) = k ++ "." ++ ".".intercalate q := by
  obtain ⟨x, q', rfl⟩ := List.exists_cons_of_ne_nil hq
  exact String.intercalate_cons_cons

/-- A name with no dot is no name joined at a dot. -/
theorem ne_join_of_dotFree {n : String} (hn : '.' ∉ n.toList) (a b : String) :
    n ≠ a ++ "." ++ b := by
  rintro rfl
  simp at hn

/-- Two names joined at a dot, the second without one, split at the same place. -/
theorem join_inj {a b c d : String} (h : a ++ "." ++ b = c ++ "." ++ d)
    (hc : '.' ∉ c.toList) (hd : '.' ∉ d.toList) : a = c ∧ b = d := by
  have hl : a.toList ++ '.' :: b.toList = c.toList ++ '.' :: d.toList := by
    simpa using congrArg String.toList h
  rcases List.append_eq_append_iff.1 hl with ⟨a', hc', hrest⟩ | ⟨c', ha', hrest⟩
  · cases a' with
    | nil =>
      simp only [List.append_nil, List.nil_append, List.cons.injEq, true_and] at hc' hrest
      exact ⟨String.ext hc'.symm, String.ext hrest⟩
    | cons x a'' =>
      simp only [List.cons_append, List.cons.injEq] at hrest
      exact absurd (by rw [hc', ← hrest.1]; simp) hc
  · cases c' with
    | nil =>
      simp only [List.append_nil, List.nil_append, List.cons.injEq, true_and] at ha' hrest
      exact ⟨String.ext ha', (String.ext hrest).symm⟩
    | cons x c'' =>
      simp only [List.cons_append, List.cons.injEq] at hrest
      exact absurd (by rw [hrest.2]; simp) hd

/-- Reached through a key other than `s`, no node is named `s.k`. -/
theorem join_ne_nested {h s k : String} (hs : '.' ∉ s.toList) (hk : '.' ∉ k.toList) (hh : h ≠ s)
    (hlit : h ≠ s ++ "." ++ k) (q : List String) : ".".intercalate (h :: q) ≠ s ++ "." ++ k := by
  rcases q with _ | ⟨x, q⟩
  · simpa using hlit
  · rw [join_cons_of_ne_nil h (List.cons_ne_nil x q)]
    intro heq
    exact hh (join_inj heq hs hk).1

/-- Below members none of whose keys is `s` or `s.k`, nothing is named `s.k`. -/
theorem find?_memberPaths_nested_eq_none {s k : String} (hs : '.' ∉ s.toList)
    (hk : '.' ∉ k.toList) (ms : List (String × Value))
    (hms : ∀ h ∈ ms.map Prod.fst, h ≠ s ∧ h ≠ s ++ "." ++ k) :
    (memberPaths ms).find? (fun e => ".".intercalate e.1 == s ++ "." ++ k) = none := by
  refine List.find?_eq_none.2 fun e he heq => ?_
  obtain ⟨h, q, hq, hmem⟩ := exists_head_of_mem_memberPaths he
  obtain ⟨hne, hlit⟩ := hms h hmem
  rw [hq] at heq
  exact join_ne_nested hs hk hne hlit q (by simpa using heq)

/-- A name without a dot is read at the top of the settings. -/
theorem node?_flat {k : String} (hk : '.' ∉ k.toList) (ms : List (String × Value)) :
    (Store.mk ms).node? k = valueAt ms k := by
  rw [node?_eq_find?]
  induction ms with
  | nil => simp [memberPaths_nil]
  | cons m rest ih =>
    obtain ⟨k', v⟩ := m
    -- below the member every name has a dot
    have hbelow : ((valuePaths v).map fun e => (k' :: e.1, e.2)).find?
        (fun e => ".".intercalate e.1 == k) = none := by
      refine List.find?_eq_none.2 fun e he heq => ?_
      obtain ⟨e', he', rfl⟩ := List.mem_map.1 he
      have heq' : ".".intercalate (k' :: e'.1) = k := by simpa using heq
      rw [join_cons_of_ne_nil k' (ne_nil_of_mem_valuePaths he')] at heq'
      exact ne_join_of_dotFree hk _ _ heq'.symm
    by_cases h : k' = k
    · subst h
      simp [memberPaths_cons]
    · simp only at ih
      simp [memberPaths_cons, List.find?_append, hbelow, h, ih]

theorem memberPaths_cons_eq_append (m : String × Value) (rest : List (String × Value)) :
    memberPaths (m :: rest) = memberPaths [m] ++ memberPaths rest := by
  obtain ⟨k, v⟩ := m
  simp [memberPaths_cons, memberPaths_nil]

/-- A name `s.k`, both parts without dots, is read inside the section `s`, where the keys are
distinct and none is `s.k` itself. -/
theorem node?_nested {s k : String} (hs : '.' ∉ s.toList) (hk : '.' ∉ k.toList)
    {ms : List (String × Value)} (hnd : (ms.map Prod.fst).Nodup)
    (hlit : s ++ "." ++ k ∉ ms.map Prod.fst) :
    (Store.mk ms).node? (s ++ "." ++ k) = nestedAt ms s k := by
  rw [node?_eq_find?]
  induction ms with
  | nil => simp [memberPaths_nil]
  | cons m rest ih =>
    obtain ⟨k', v⟩ := m
    simp only [List.map_cons, List.nodup_cons, List.mem_cons, not_or] at hnd hlit
    by_cases h : k' = s
    · subst h
      -- no other member is the section, so only the section's own nodes can be named `s.k`
      have hrest := find?_memberPaths_nested_eq_none hs hk rest fun h hh =>
        ⟨fun he => hnd.1 (he ▸ hh), fun he => hlit.2 (he ▸ hh)⟩
      have htop : ".".intercalate [k'] ≠ k' ++ "." ++ k := by simpa using Ne.symm hlit.1
      have hbelow : ((valuePaths v).map fun e => (k' :: e.1, e.2)).find?
          (fun e => ".".intercalate e.1 == k' ++ "." ++ k) =
          ((valuePaths v).find? fun e => ".".intercalate e.1 == k).map
            fun e => (k' :: e.1, e.2) := by
        rw [List.find?_map]
        congr 1
        refine List.find?_congr fun e he => ?_
        simp [join_cons_of_ne_nil k' (ne_nil_of_mem_valuePaths he), String.append_assoc]
      rw [memberPaths_cons, List.find?_append, hrest, Option.or_none,
        List.find?_cons_of_neg (by simpa using htop), hbelow, Option.map_map]
      by_cases hv : ∃ sub, v = .map sub
      · obtain ⟨sub, rfl⟩ := hv
        have hsec : valueAt ((k', Value.map sub) :: rest) k' = some (.map sub) := by simp
        rw [nestedAt_of_valueAt_map hsec k, ← node?_flat hk sub, node?_eq_find?, valuePaths_map]
        rfl
      · have hv' : ∀ sub, v ≠ .map sub := by simpa using hv
        have hsec : valueAt ((k', v) :: rest) k' = some v := by simp
        rw [nestedAt_of_valueAt_ne_map hsec hv' k, valuePaths_of_ne_map hv']
        rfl
    · -- the member is another key: none of its nodes is named `s.k`
      have hmem := find?_memberPaths_nested_eq_none hs hk [(k', v)]
        (by simp [h, Ne.symm hlit.1])
      rw [memberPaths_cons_eq_append, List.find?_append, hmem, nestedAt_cons_of_ne h]
      simpa using ih hnd.2 hlit.2

/-! ## What the getters read -/

/-- The highest layer that sets a name, as settings of its own; no settings when none does. -/
def topLayer (layers : List (List (String × Value))) (name : String) : Store :=
  ⟨(layers.reverse.find? fun L => (Store.mk L).has name).getD []⟩

theorem findSome?_congr_of_mem {α β : Type} {l : List α} {f g : α → Option β}
    (h : ∀ x ∈ l, f x = g x) : l.findSome? f = l.findSome? g := by
  induction l with
  | nil => rfl
  | cons a l ih =>
    simp only [List.findSome?_cons, h a (by simp), ih fun x hx => h x (by simp [hx])]

/-- The highest layer that sets a name reads it as the first layer, from the top, that gives
it a node. -/
theorem node?_topLayer (layers : List (List (String × Value))) (name : String) :
    (topLayer layers name).node? name = layers.reverse.findSome? fun L => (Store.mk L).node? name := by
  unfold topLayer
  induction layers.reverse with
  | nil => rfl
  | cons L ls ih =>
    by_cases h : (Store.mk L).has name
    · obtain ⟨x, hx⟩ := Option.isSome_iff_exists.1 h
      simp [h, hx]
    · have hnone : (Store.mk L).node? name = none := by simpa [Store.has] using h
      simp [h, hnone, ih]

section Top

variable {sect key : String} {layers : List (List (String × Value))}

/-- The merged settings read a flat name as the highest layer that sets it. -/
theorem node?_load_flat (hkey : '.' ∉ key.toList) (hl : ∀ L ∈ layers, SettingLayer sect key L) :
    (Store.load layers).node? key = (topLayer layers key).node? key := by
  rw [node?_topLayer, show Store.load layers = ⟨(Store.load layers).members⟩ from rfl,
    node?_flat hkey, valueAt_load hl]
  simp only [node?_flat hkey]

/-- The merged settings read a name in a section as the highest layer that sets it. -/
theorem node?_load_nested (hsect : '.' ∉ sect.toList) (hkey : '.' ∉ key.toList)
    (hl : ∀ L ∈ layers, SettingLayer sect key L) :
    (Store.load layers).node? (sect ++ "." ++ key) =
      (topLayer layers (sect ++ "." ++ key)).node? (sect ++ "." ++ key) := by
  rw [node?_topLayer, show Store.load layers = ⟨(Store.load layers).members⟩ from rfl,
    node?_nested hsect hkey nodup_keys_load (not_dotted_load hl), nestedAt_load hl]
  exact findSome?_congr_of_mem fun L hL =>
    (node?_nested hsect hkey (hl L (List.mem_reverse.1 hL)).nodup
      (hl L (List.mem_reverse.1 hL)).not_dotted).symm

end Top

/-- What the getters read from layered settings. The merged settings read the setting's flat
name, and its name in the section, each as the highest layer that sets that name. A getter reads
the flat name first, and the other name (the name in the section, or the flat name again) only
when no layer sets the flat name; its default when neither is set. For text, a name set to the
empty text is passed over as if it were not set. So a flat name in a low layer wins over the
name in the section in a higher one. -/
theorem settings_flat_name_first {layers : List (List (String × Value))}
    {sect key fallback : String} (hsect : '.' ∉ sect.toList) (hkey : '.' ∉ key.toList)
    (hfallback : fallback = key ∨ fallback = sect ++ "." ++ key)
    (hl : ∀ L ∈ layers, SettingLayer sect key L) (b : Bool) (i : Int) (d : String) :
    let st := Store.load layers
    let flat := topLayer layers key
    let other := topLayer layers fallback
    st.node? key = flat.node? key ∧ st.node? fallback = other.node? fallback ∧
    st.boolOr key fallback b =
      (if flat.has key then flat.bool key else if other.has fallback then other.bool fallback
        else b) ∧
    st.intOr key fallback i =
      (if flat.has key then flat.int key else if other.has fallback then other.int fallback
        else i) ∧
    st.stringOr key fallback d =
      (if !(flat.string key).isEmpty then flat.string key
        else if !(other.string fallback).isEmpty then other.string fallback else d) := by
  intro st flat other
  have hflat : st.node? key = flat.node? key := node?_load_flat hkey hl
  have hother : st.node? fallback = other.node? fallback := by
    rcases hfallback with rfl | rfl
    · exact hflat
    · exact node?_load_nested hsect hkey hl
  -- every getter reads the settings only through the nodes of the two names
  refine ⟨hflat, hother, ?_, ?_, ?_⟩
  · simp only [Store.boolOr, Store.has, Store.bool, Store.get?, hflat, hother]
    rfl
  · simp only [Store.intOr, Store.has, Store.int, Store.get?, hflat, hother]
    rfl
  · simp only [Store.stringOr, Store.string, Store.get?, hflat, hother]
    rfl

theorem settings_flat_name_first_output_dir :
    (Store.load [[("output-dir", .str "out")], [("apply", .map [("output-dir", .str "dist")])],
      [("dry-run", .bool true)]]).stringOr "output-dir" "apply.output-dir" "" = "out" := by
  have hl : ∀ L ∈ [[("output-dir", .str "out")], [("apply", .map [("output-dir", .str "dist")])],
      [("dry-run", .bool true)]], SettingLayer "apply" "output-dir" L := by
    intro L hL
    simp only [List.mem_cons, List.not_mem_nil, or_false] at hL
    rcases hL with rfl | rfl | rfl <;>
      exact ⟨by decide, by decide, by simp [valueAt], by simp [valueAt],
        by simp [nestedAt, sectionAt, valueAt]⟩
  have hname : "apply.output-dir" = "apply" ++ "." ++ "output-dir" := by decide
  rw [(@settings_flat_name_first _ "apply" "output-dir" "apply.output-dir" (by simp) (by simp)
    (.inr hname) hl false 0 "").2.2.2.2]
  decide

/-- The settings file sets the flat name and the environment, a higher layer, the name in the
section; a run takes the file's value. The second layer is the one the variable
`TENOX_APPLY_OUTPUT_DIR=dist` gives. -/
theorem flat_file_setting_beats_sectioned_env :
    (Store.mk [("apply", .map [("output-dir", .str "dist")])]).string "apply.output-dir" = "dist" ∧
      (applyConfig (Store.load [[("output-dir", .str "out")],
        [("apply", .map [("output-dir", .str "dist")])], []]) [] Registry.empty ⟨[]⟩).outputDir =
        "out" :=
  ⟨by decide, by decide⟩

end UtilityStyles.Settings
