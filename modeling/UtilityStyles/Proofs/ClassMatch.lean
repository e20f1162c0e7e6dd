import UtilityStyles.Proofs.ClassReading
import UtilityStyles.Registry.Defaults
/-!
# Where a class is found

`parseClass` looks for the class grammar at each position of a text in turn, and stops at the
first position where it finds a match. At one position it tries a prefix first; after it, the
longest word type that a value follows, and then a `[--name]` type.

What is found at a position is a text of the grammar, and something is found there exactly when
a text of the grammar starts there (`matchAt_eq_none_iff`). What is found does not depend on
what follows it (`matchAt_cut`). So the search stops at the leftmost position where the grammar
matches, and the class it finds, written out, reads back as the same token
(`parseClass_canonical`).

Read at a known position, a class written from a prefix, a word type, a value and a unit gives
those parts back when the value is a signed decimal or a single word, `#hex`, `[bracketed]` or
`$ref`; a hyphenated word value gives all its words but the last to the type
(`parseClass_recovers_parts`, `hyphenated_value_joins_type`).

## Main statements

* `findSome?_eq_some_iff_of_pairwise` : the first success in a list sorted longest first.
* `readTypeValue_sound`, `readTypeValue_complete`, `readTypeValue_cut`.
* `matchAt_sound`, `matchAt_eq_none_iff`, `matchAt_cut`, `matchFrom_eq_some_iff`.
* `parseClass_canonical`, `parseClass_recovers_parts`, `hyphenated_value_joins_type`.
-/

namespace UtilityStyles.Class

/-! ## The first success in a list sorted longest first -/

/-- In a list sorted longest first, the first element on which `f` succeeds is the longest one. -/
theorem findSome?_eq_some_iff_of_pairwise {α β : Type} {l : List α} {key : α → Nat}
    (hl : l.Pairwise fun a b => key b < key a) {f : α → Option β} {y : β} :
    l.findSome? f = some y ↔ ∃ a ∈ l, f a = some y ∧ ∀ b ∈ l, key a < key b → f b = none := by
  constructor
  · intro h
    obtain ⟨l₁, a, l₂, rfl, ha, h₁⟩ := List.findSome?_eq_some_iff.1 h
    refine ⟨a, by simp, ha, fun b hb hab => ?_⟩
    rw [List.pairwise_append, List.pairwise_cons] at hl
    rcases List.mem_append.1 hb with hb | hb
    · exact h₁ b hb
    · rcases List.mem_cons.1 hb with rfl | hb
      · exact absurd hab (lt_irrefl _)
      · exact absurd hab (Nat.lt_asymm (hl.2.1.1 b hb))
  · rintro ⟨a, ha, hfa, hlonger⟩
    induction l with
    | nil => simp at ha
    | cons c l ih =>
      rw [List.pairwise_cons] at hl
      rcases List.mem_cons.1 ha with rfl | ha
      · simp [hfa]
      · -- the head is longer than `a`, so it fails and the search goes on
        have hc : f c = none := hlonger c List.mem_cons_self (hl.1 a ha)
        rw [List.findSome?_cons, hc]
        exact ih hl.2 ha fun b hb => hlonger b (List.mem_cons_of_mem _ hb)

/-! ## After the type -/

theorem afterType_eq_some_iff {ty rest : List Char} {m : List Char × List Char × List Char} :
    afterType ty rest = some m ↔ ∃ r v after, rest = '-' :: r ∧ readValue r = some (v, after) ∧
      m = (ty, v, after.takeWhile isUnitChar) := by
  unfold afterType
  split
  · simp only [Option.map_eq_some_iff, Prod.exists, List.cons.injEq, true_and, span]
    constructor
    · rintro ⟨v, after, h, rfl⟩
      exact ⟨_, v, after, rfl, h, rfl⟩
    · rintro ⟨r, v, after, rfl, h, rfl⟩
      exact ⟨v, after, h, rfl⟩
  · rename_i hrest
    simp only [reduceCtorEq, false_iff, not_exists, not_and]
    intro r _ _ h
    exact absurd h (hrest r)

/-- What follows a type: a `-`, a value of the grammar, a unit, and a rest. -/
theorem afterType_sound {ty rest t v u : List Char} (h : afterType ty rest = some (t, v, u)) :
    t = ty ∧ ∃ s, rest = '-' :: (v ++ (u ++ s)) ∧ IsValue v ∧ IsUnit u := by
  obtain ⟨r, v', after, rfl, hr, hm⟩ := afterType_eq_some_iff.1 h
  simp only [Prod.mk.injEq] at hm
  obtain ⟨rfl, rfl, rfl⟩ := hm
  refine ⟨rfl, after.dropWhile isUnitChar, ?_, isValue_of_readValue hr,
    fun c hc => List.mem_takeWhile_imp hc⟩
  rw [readValue_stable.splits hr, List.takeWhile_append_dropWhile]

theorem afterType_complete {v : List Char} (hv : IsValue v) (ty s : List Char) :
    (afterType ty ('-' :: (v ++ s))).isSome := by
  obtain ⟨p, hp⟩ := Option.isSome_iff_exists.1 (isSome_readValue_of_isValue hv s)
  obtain ⟨v', after⟩ := p
  simp [afterType_eq_some_iff.2 ⟨_, v', after, rfl, hp, rfl⟩]

theorem afterType_extend {ty r : List Char} (h : (afterType ty r).isSome) (s : List Char) :
    (afterType ty (r ++ s)).isSome := by
  obtain ⟨m, hm⟩ := Option.isSome_iff_exists.1 h
  obtain ⟨r', v, after, rfl, hr, -⟩ := afterType_eq_some_iff.1 hm
  obtain ⟨p, hp⟩ := Option.isSome_iff_exists.1
    (@readValue_stable.extend r' s (by simp [hr]))
  obtain ⟨v', after'⟩ := p
  simp [afterType_eq_some_iff.2 ⟨_, v', after', rfl, hp, rfl⟩]

/-- What is read after a type does not depend on the text after the unit. -/
theorem afterType_cut {ty v u s : List Char}
    (h : afterType ty ('-' :: (v ++ (u ++ s))) = some (ty, v, u)) :
    afterType ty ('-' :: (v ++ u)) = some (ty, v, u) := by
  obtain ⟨r, v', after, hr, hv, hm⟩ := afterType_eq_some_iff.1 h
  simp only [List.cons.injEq, true_and] at hr
  simp only [Prod.mk.injEq, true_and] at hm
  obtain ⟨rfl, hu⟩ := hm
  subst hr
  have hafter : after = u ++ s := List.append_cancel_left (readValue_stable.splits hv).symm
  subst hafter
  -- the unit was read off `u ++ s`, so it is all unit characters
  have hall : IsUnit u := fun c hc => by
    rw [hu] at hc
    exact List.mem_takeWhile_imp hc
  exact afterType_eq_some_iff.2 ⟨_, v, u, rfl, readValue_stable.cut hv,
    by rw [List.takeWhile_eq_self_iff.2 hall]⟩

/-! ## The type and the value -/

theorem readCustomType_eq_some_iff {x t r : List Char} :
    readCustomType x = some (t, r) ↔ x = t ++ r ∧ IsCustomType t := by
  constructor
  · intro h
    unfold readCustomType at h
    split at h
    · rename_i r₀
      split at h
      · rename_i c name rest hsp
        obtain ⟨rfl, hname, -⟩ := span_eq_iff.1 hsp
        simp only [Option.some.injEq, Prod.mk.injEq] at h
        obtain ⟨rfl, rfl⟩ := h
        refine ⟨by simp, c :: name, rfl, List.cons_ne_nil _ _, fun d hd => ?_⟩
        simpa using hname d hd
      · simp at h
    · simp at h
  · rintro ⟨rfl, name, rfl, hne, hname⟩
    obtain ⟨c, name', rfl⟩ := List.exists_cons_of_ne_nil hne
    have hsp : span (fun c => isWordChar c || c == '-') (c :: (name' ++ ']' :: r)) =
        (c :: name', ']' :: r) :=
      span_eq_iff.2 ⟨rfl, fun d hd => by simpa using hname d hd, by simp [isWordChar]⟩
    simp [readCustomType, hsp]

/-- No word type starts a text that starts with a `[--name]` type. -/
theorem wordTypes_of_isCustomType {t : List Char} (ht : IsCustomType t) (r : List Char) :
    wordTypes (t ++ r) = [] := by
  obtain ⟨name, rfl, -⟩ := ht
  simp [wordTypes, chains, isWordChar]

/-- The reader of a type and a value, as the longest word type that a value follows, or else a
`[--name]` type that one follows. -/
theorem readTypeValue_eq (cs : List Char) :
    readTypeValue cs = ((wordTypes cs).findSome? fun p => afterType p.1 p.2).or
      ((readCustomType cs).bind fun p => afterType p.1 p.2) := by
  unfold readTypeValue
  cases (wordTypes cs).findSome? fun p => afterType p.1 p.2 <;> rfl

/-- What is read as a type and a value is a type of the grammar, a `-`, a value and a unit at the
start of the text. -/
theorem readTypeValue_sound {cs t v u : List Char} (h : readTypeValue cs = some (t, v, u)) :
    ∃ s, cs = t ++ '-' :: (v ++ (u ++ s)) ∧ IsType t ∧ IsValue v ∧ IsUnit u := by
  rw [readTypeValue_eq, Option.or_eq_some_iff] at h
  rcases h with h | ⟨-, h⟩
  · obtain ⟨⟨t₀, r⟩, hmem, ha⟩ := List.exists_of_findSome?_eq_some h
    obtain ⟨hcs, ht, -⟩ := mem_wordTypes.1 hmem
    obtain ⟨rfl, s, rfl, hv, hu⟩ := afterType_sound ha
    exact ⟨s, hcs, .inl ht, hv, hu⟩
  · obtain ⟨⟨t₀, r⟩, hc, ha⟩ := Option.bind_eq_some_iff.1 h
    obtain ⟨rfl, ht⟩ := readCustomType_eq_some_iff.1 hc
    obtain ⟨rfl, s, rfl, hv, hu⟩ := afterType_sound ha
    exact ⟨s, rfl, .inr ht, hv, hu⟩

/-- Wherever a type of the grammar, a `-` and a value stand, a type and a value are read. -/
theorem readTypeValue_complete {t v : List Char} (ht : IsType t) (hv : IsValue v)
    (s : List Char) : (readTypeValue (t ++ '-' :: (v ++ s))).isSome := by
  rw [readTypeValue_eq]
  rcases ht with ht | ht
  · have hmem : (t, '-' :: (v ++ s)) ∈ wordTypes (t ++ '-' :: (v ++ s)) :=
      mem_wordTypes.2 ⟨rfl, ht, by simp [Delim]⟩
    have hsome : ((wordTypes (t ++ '-' :: (v ++ s))).findSome?
        fun p => afterType p.1 p.2).isSome :=
      List.findSome?_isSome_iff.2 ⟨_, hmem, afterType_complete hv t s⟩
    obtain ⟨m, hm⟩ := Option.isSome_iff_exists.1 hsome
    simp [hm]
  · have hc : readCustomType (t ++ '-' :: (v ++ s)) = some (t, '-' :: (v ++ s)) :=
      readCustomType_eq_some_iff.2 ⟨rfl, ht⟩
    simp [wordTypes_of_isCustomType ht, hc, afterType_complete hv t s]

/-- What is read as a type and a value does not depend on the text after the unit. -/
theorem readTypeValue_cut {t v u s : List Char}
    (h : readTypeValue (t ++ '-' :: (v ++ (u ++ s))) = some (t, v, u)) :
    readTypeValue (t ++ '-' :: (v ++ u)) = some (t, v, u) := by
  rw [readTypeValue_eq, Option.or_eq_some_iff] at h
  rw [readTypeValue_eq, Option.or_eq_some_iff]
  rcases h with h | ⟨-, h⟩
  · -- a word type: the same type is still the longest that a value follows
    left
    obtain ⟨⟨t₀, r⟩, hmem, ha, hlonger⟩ := (findSome?_eq_some_iff_of_pairwise
      (pairwise_wordTypes _)).1 h
    obtain ⟨rfl, -⟩ := afterType_sound ha
    obtain ⟨hcs, ht, -⟩ := mem_wordTypes.1 hmem
    obtain rfl := List.append_cancel_left hcs.symm
    refine (findSome?_eq_some_iff_of_pairwise (pairwise_wordTypes _)).2
      ⟨(t, '-' :: (v ++ u)), mem_wordTypes.2 ⟨rfl, ht, by simp [Delim]⟩, afterType_cut ha, ?_⟩
    rintro ⟨t', r'⟩ hb hlt
    obtain ⟨hx, ht', hr'⟩ := mem_wordTypes.1 hb
    cases r' with
    | nil => rfl
    | cons c r'' =>
      -- a longer word type fails before the cut, so it fails after it
      have hb' : (t', c :: r'' ++ s) ∈ wordTypes (t ++ '-' :: (v ++ (u ++ s))) :=
        mem_wordTypes.2 ⟨by simpa using congrArg (· ++ s) hx, ht', by simpa [Delim] using hr'⟩
      have hn : afterType t' (c :: r'' ++ s) = none := hlonger _ hb' hlt
      cases hc : afterType t' (c :: r'') with
      | none => rfl
      | some m =>
        have := afterType_extend (show (afterType t' (c :: r'')).isSome by simp [hc]) s
        rw [hn] at this
        simp at this
  · -- a `[--name]` type
    obtain ⟨⟨t₀, r⟩, hc, ha⟩ := Option.bind_eq_some_iff.1 h
    obtain ⟨hcs, ht⟩ := readCustomType_eq_some_iff.1 hc
    obtain ⟨rfl, -⟩ := afterType_sound ha
    obtain rfl := List.append_cancel_left hcs.symm
    right
    refine ⟨by simp [wordTypes_of_isCustomType ht], Option.bind_eq_some_iff.2
      ⟨(t, '-' :: (v ++ u)), readCustomType_eq_some_iff.2 ⟨rfl, ht⟩, afterType_cut ha⟩⟩

/-- Adding text after a type and a value never stops them from being read. -/
theorem readTypeValue_extend {r : List Char} (h : (readTypeValue r).isSome) (s : List Char) :
    (readTypeValue (r ++ s)).isSome := by
  obtain ⟨⟨t, v, u⟩, hm⟩ := Option.isSome_iff_exists.1 h
  obtain ⟨s', rfl, ht, hv, -⟩ := readTypeValue_sound hm
  simpa using readTypeValue_complete ht hv (u ++ s' ++ s)

/-! ## One position -/

/-- A token written out: the prefix and a `:` when there is a prefix, the type, a `-`, the value
and the unit. -/
theorem render_toList (t : Token) :
    t.render.toList = (if t.prefixName = "" then [] else t.prefixName.toList ++ [':']) ++
      (t.type.toList ++ '-' :: (t.value.toList ++ t.unit.toList)) := by
  unfold Token.render
  split <;> simp_all [String.isEmpty_iff]

theorem render_tokenOf_bare (ty v u : List Char) :
    (tokenOf [] (ty, v, u)).render.toList = ty ++ '-' :: (v ++ u) := by
  simp [render_toList, tokenOf]

theorem render_tokenOf_prefixed {pre : List Char} (hp : pre ≠ []) (ty v u : List Char) :
    (tokenOf pre (ty, v, u)).render.toList = pre ++ ':' :: (ty ++ '-' :: (v ++ u)) := by
  simp [render_toList, tokenOf, hp]

theorem prefixName_tokenOf (pre : List Char) (m : List Char × List Char × List Char) :
    (tokenOf pre m).prefixName = String.ofList pre := rfl

/-- At a prefix and a `:`, a match is tried with that prefix first. -/
theorem matchAt_prefixed {p : List Char} (hp : IsPrefix p) (r : List Char) :
    matchAt (p ++ ':' :: r) =
      ((readTypeValue r).map (tokenOf p) <|> (readTypeValue (p ++ ':' :: r)).map (tokenOf [])) := by
  have hsp : span isPrefixChar (p ++ ':' :: r) = (p, ':' :: r) :=
    span_eq_iff.2 ⟨rfl, hp.2, by simp [isPrefixChar]⟩
  obtain ⟨c, p', rfl⟩ := List.exists_cons_of_ne_nil hp.1
  unfold matchAt
  rw [hsp]
  rfl

/-- Where no prefix and `:` start the text, a match is tried without a prefix. -/
theorem matchAt_bare {cs : List Char} (h : ∀ p r, cs = p ++ ':' :: r → ¬ IsPrefix p) :
    matchAt cs = (readTypeValue cs).map (tokenOf []) := by
  unfold matchAt
  rcases hsp : span isPrefixChar cs with ⟨w, rest⟩
  obtain ⟨rfl, hw, -⟩ := span_eq_iff.1 hsp
  split
  · rename_i c w' r heq
    simp only [Prod.mk.injEq] at heq
    obtain ⟨rfl, rfl⟩ := heq
    exact absurd ⟨List.cons_ne_nil _ _, hw⟩ (h _ _ rfl)
  · rfl

/-- What a match at one position can be: a prefix, a `:`, and a type and a value after them;
or a type and a value with no prefix. -/
theorem matchAt_eq_some_cases {cs : List Char} {t : Token} (h : matchAt cs = some t) :
    (∃ p r m, IsPrefix p ∧ cs = p ++ ':' :: r ∧ readTypeValue r = some m ∧ t = tokenOf p m) ∨
      ∃ m, readTypeValue cs = some m ∧ t = tokenOf [] m := by
  by_cases hp : ∃ p r, cs = p ++ ':' :: r ∧ IsPrefix p
  · obtain ⟨p, r, rfl, hp⟩ := hp
    rw [matchAt_prefixed hp, Option.orElse_eq_some] at h
    rcases h with h | ⟨-, h⟩
    · obtain ⟨m, hm, rfl⟩ := Option.map_eq_some_iff.1 h
      exact .inl ⟨p, r, m, hp, rfl, hm, rfl⟩
    · obtain ⟨m, hm, rfl⟩ := Option.map_eq_some_iff.1 h
      exact .inr ⟨m, hm, rfl⟩
  · rw [matchAt_bare fun p r hcs hpre => hp ⟨p, r, hcs, hpre⟩] at h
    obtain ⟨m, hm, rfl⟩ := Option.map_eq_some_iff.1 h
    exact .inr ⟨m, hm, rfl⟩

/-- What is found at a position is a text of the grammar that starts there. -/
theorem matchAt_sound {cs : List Char} {t : Token} (h : matchAt cs = some t) :
    t.render.toList <+: cs ∧ IsClass t.render.toList := by
  rcases matchAt_eq_some_cases h with ⟨p, r, ⟨ty, v, u⟩, hp, rfl, hm, rfl⟩ | ⟨⟨ty, v, u⟩, hm, rfl⟩
  · obtain ⟨s, rfl, ht, hv, hu⟩ := readTypeValue_sound hm
    rw [render_tokenOf_prefixed hp.1]
    exact ⟨⟨s, by simp⟩, IsClass.prefixed hp ht hv hu⟩
  · obtain ⟨s, rfl, ht, hv, hu⟩ := readTypeValue_sound hm
    rw [render_tokenOf_bare]
    exact ⟨⟨s, by simp⟩, IsClass.bare ht hv hu⟩

/-- Wherever a text of the grammar starts, something is found. -/
theorem matchAt_complete {x : List Char} (hx : IsClass x) (s : List Char) :
    (matchAt (x ++ s)).isSome := by
  cases hx with
  | @bare t v u ht hv hu =>
    have h := readTypeValue_complete ht hv (u ++ s)
    by_cases hp : ∃ p r, t ++ '-' :: (v ++ u) ++ s = p ++ ':' :: r ∧ IsPrefix p
    · obtain ⟨p, r, hcs, hp⟩ := hp
      rw [hcs, matchAt_prefixed hp, isSome_orElse, ← hcs]
      simp [h]
    · rw [matchAt_bare fun p r hcs hpre => hp ⟨p, r, hcs, hpre⟩]
      simpa using h
  | @prefixed p t v u hp ht hv hu =>
    have h := readTypeValue_complete ht hv (u ++ s)
    have hcs : p ++ ':' :: (t ++ '-' :: (v ++ u)) ++ s = p ++ ':' :: (t ++ '-' :: (v ++ (u ++ s))) := by
      simp
    rw [hcs, matchAt_prefixed hp, isSome_orElse]
    simp [h]

/-- Nothing is found at a position exactly when no text of the grammar starts there. -/
theorem matchAt_eq_none_iff {cs : List Char} :
    matchAt cs = none ↔ ¬ ∃ x, x <+: cs ∧ IsClass x := by
  constructor
  · rintro h ⟨x, ⟨s, rfl⟩, hx⟩
    simpa [h] using matchAt_complete hx s
  · intro h
    cases hm : matchAt cs with
    | none => rfl
    | some t => exact absurd ⟨_, matchAt_sound hm⟩ h

/-- What is found at a position does not depend on the text after it. -/
theorem matchAt_cut {t : Token} {s : List Char} (h : matchAt (t.render.toList ++ s) = some t) :
    matchAt t.render.toList = some t := by
  rcases matchAt_eq_some_cases h with ⟨p, r, ⟨ty, v, u⟩, hp, hcs, hm, rfl⟩ | ⟨⟨ty, v, u⟩, hm, rfl⟩
  · -- with a prefix: the type and the value after it are read the same without the rest
    rw [render_tokenOf_prefixed hp.1] at hcs ⊢
    have hr : r = ty ++ '-' :: (v ++ (u ++ s)) := by
      simp only [List.append_assoc, List.cons_append, List.append_right_inj, List.cons.injEq,
        true_and] at hcs
      exact hcs.symm
    subst hr
    rw [matchAt_prefixed hp, readTypeValue_cut hm]
    rfl
  · -- without one: a prefix reading fails on the shorter text since it fails on the longer
    rw [render_tokenOf_bare] at h hm ⊢
    have hm' : readTypeValue (ty ++ '-' :: (v ++ u)) = some (ty, v, u) :=
      readTypeValue_cut (by simpa using hm)
    by_cases hp : ∃ p r, ty ++ '-' :: (v ++ u) = p ++ ':' :: r ∧ IsPrefix p
    · obtain ⟨p, r, hcs, hp⟩ := hp
      have hnone : readTypeValue r = none := by
        cases hr : readTypeValue r with
        | none => rfl
        | some m =>
          -- the longer text would then have been read with the prefix
          have hlong := readTypeValue_extend (show (readTypeValue r).isSome by simp [hr]) s
          obtain ⟨m', hm''⟩ := Option.isSome_iff_exists.1 hlong
          have hcs' : ty ++ '-' :: (v ++ u) ++ s = p ++ ':' :: (r ++ s) := by
            simpa using congrArg (· ++ s) hcs
          rw [hcs', matchAt_prefixed hp, hm''] at h
          have hpre := congrArg Token.prefixName (Option.some.inj h)
          simp only [prefixName_tokenOf] at hpre
          simp [hp.1] at hpre
      rw [hcs, matchAt_prefixed hp, hnone, ← hcs, hm']
      rfl
    · rw [matchAt_bare fun p r hcs hpre => hp ⟨p, r, hcs, hpre⟩, hm']
      rfl

/-! ## The search -/

theorem matchAt_nil : matchAt [] = none := rfl

theorem matchFrom_cons (c : Char) (rest : List Char) :
    matchFrom (c :: rest) = (matchAt (c :: rest) <|> matchFrom rest) := rfl

/-- The search finds what is found at the first position where something is. -/
theorem matchFrom_eq_some_iff {cs : List Char} {t : Token} :
    matchFrom cs = some t ↔
      ∃ i, matchAt (cs.drop i) = some t ∧ ∀ j < i, matchAt (cs.drop j) = none := by
  induction cs with
  | nil => simp [matchFrom, matchAt_nil]
  | cons c rest ih =>
    rw [matchFrom_cons, Option.orElse_eq_some, ih]
    constructor
    · rintro (h | ⟨h0, i, hi, hj⟩)
      · exact ⟨0, h, by simp⟩
      · refine ⟨i + 1, hi, fun j hji => ?_⟩
        cases j with
        | zero => exact h0
        | succ j => exact hj j (by omega)
    · rintro ⟨i, hi, hj⟩
      cases i with
      | zero => exact .inl hi
      | succ i =>
        exact .inr ⟨hj 0 (by omega), i, hi, fun j hji => hj (j + 1) (by omega)⟩

/-- The search finds nothing exactly when nothing is found at any position. -/
theorem matchFrom_eq_none_iff {cs : List Char} :
    matchFrom cs = none ↔ ∀ i, matchAt (cs.drop i) = none := by
  induction cs with
  | nil => simp [matchFrom, matchAt_nil]
  | cons c rest ih =>
    rw [matchFrom_cons, Option.orElse_eq_none, ih]
    constructor
    · rintro ⟨h0, h⟩ i
      cases i with
      | zero => exact h0
      | succ i => exact h i
    · intro h
      exact ⟨h 0, fun i => h (i + 1)⟩

/-- A part of a text is a start of the text after some position. -/
theorem infix_iff_exists_prefix_drop {x l : List Char} :
    x <:+: l ↔ ∃ i, x <+: l.drop i := by
  constructor
  · rintro ⟨s, t, rfl⟩
    exact ⟨s.length, t, by simp⟩
  · rintro ⟨i, hi⟩
    exact hi.isInfix.trans (List.drop_suffix i l).isInfix

/-- A text of the grammar starts at a position exactly when something is found there. -/
theorem matchesAt_iff {cs : List Char} {i : Nat} :
    MatchesAt cs i ↔ matchAt (cs.drop i) ≠ none := by
  rw [ne_eq, matchAt_eq_none_iff, not_not]
  rfl

/-- The token of a class is the text of the grammar at the leftmost position where one starts,
and written out it reads back as itself; a text holds no class exactly when no part of it is a
text of the grammar. -/
theorem parseClass_canonical (c : String) :
    (∀ t, parseClass c = some t →
      (∃ i, t.render.toList <+: c.toList.drop i ∧ IsClass t.render.toList ∧
        ∀ j < i, ¬ MatchesAt c.toList j) ∧
      parseClass t.render = some t) ∧
    (parseClass c = none ↔ ¬ ∃ x, x <:+: c.toList ∧ IsClass x) := by
  refine ⟨fun t h => ?_, ?_⟩
  · obtain ⟨i, hi, hj⟩ := matchFrom_eq_some_iff.1 h
    obtain ⟨hpre, hclass⟩ := matchAt_sound hi
    refine ⟨⟨i, hpre, hclass, fun j hji => by simpa [matchesAt_iff] using hj j hji⟩, ?_⟩
    -- what was found reads back alone, since it does not depend on what followed it
    obtain ⟨s, hs⟩ := hpre
    rw [← hs] at hi
    exact matchFrom_eq_some_iff.2 ⟨0, by simpa using matchAt_cut hi, by simp⟩
  · unfold parseClass
    rw [matchFrom_eq_none_iff]
    constructor
    · rintro h ⟨x, hx, hclass⟩
      obtain ⟨i, hi⟩ := infix_iff_exists_prefix_drop.1 hx
      exact matchAt_eq_none_iff.1 (h i) ⟨x, hi, hclass⟩
    · intro h i
      exact matchAt_eq_none_iff.2 fun ⟨x, hx, hclass⟩ =>
        h ⟨x, infix_iff_exists_prefix_drop.2 ⟨i, hx⟩, hclass⟩

theorem parseClass_canonical_hover_padding :
    (parseClass "md:hover:p-1px" = some ⟨"hover", "p", "1", "px"⟩ ∧
      parseClass "hover:p-1px" = some ⟨"hover", "p", "1", "px"⟩) ∧
    ¬ ∃ x, x <:+: "flex".toList ∧ IsClass x := by
  have h : parseClass "md:hover:p-1px" = some ⟨"hover", "p", "1", "px"⟩ := by
    simp only [parseClass]; simp; decide
  have hnone : parseClass "flex" = none := by
    simp only [parseClass]; simp; decide
  refine ⟨⟨h, ?_⟩, (parseClass_canonical "flex").2.1 hnone⟩
  simpa [Token.render] using ((parseClass_canonical _).1 _ h).2

/-! ## Classes that read back as written -/

/-- A hyphen inside a chain is followed by a word character. -/
theorem chainRest_append_hyphen {z : List Char} (hz : ChainRest z) :
    ∀ {a w : List Char}, z = a ++ '-' :: w → ∃ d w', w = d :: w' ∧ isWordChar d = true := by
  induction hz with
  | nil => intro a w h; simp at h
  | @word c x hc _ ih =>
    intro a w h
    cases a with
    | nil => simp only [List.nil_append, List.cons.injEq] at h; exact absurd h.1 (ne_hyphen_of_isWordChar hc)
    | cons c' a => exact ih (List.cons.inj h).2
  | @hyphen d x hd _ ih =>
    intro a w h
    match a, h with
    | [], h =>
      simp only [List.nil_append, List.cons.injEq, true_and] at h
      exact ⟨d, x, h.symm, hd⟩
    | [c'], h =>
      simp only [List.cons_append, List.nil_append, List.cons.injEq] at h
      exact absurd h.2.1 (ne_hyphen_of_isWordChar hd)
    | c' :: d' :: a, h =>
      simp only [List.cons_append, List.cons.injEq] at h
      exact ih h.2.2

/-- After a word type and a hyphen, a longer word type goes on with a word character. -/
theorem isWordType_append_hyphen {a w : List Char} (h : IsWordType (a ++ '-' :: w)) :
    ∃ d w', w = d :: w' ∧ isWordChar d = true := by
  have hchain : ∀ {b : List Char}, IsChain (b ++ '-' :: w) →
      ∃ d w', w = d :: w' ∧ isWordChar d = true := by
    rintro b ⟨c, z, hb, hc, hz⟩
    cases b with
    | nil => simp only [List.nil_append, List.cons.injEq] at hb; exact absurd hb.1.symm (ne_hyphen_of_isWordChar hc)
    | cons c' b => exact chainRest_append_hyphen hz (List.cons.inj hb).2.symm
  rcases h with h | ⟨t₀, ht, h⟩
  · exact hchain h
  · cases a with
    | nil =>
      obtain ⟨c, z, rfl, hc, -⟩ := h
      simp only [List.nil_append, List.cons.injEq, true_and] at ht
      exact ⟨c, z, ht, hc⟩
    | cons c' a =>
      simp only [List.cons_append, List.cons.injEq] at ht
      exact hchain (ht.2 ▸ h)

/-- Word characters alone continue a chain. -/
theorem ChainRest.of_words {x : List Char} (hx : ∀ c ∈ x, isWordChar c = true) : ChainRest x := by
  induction x with
  | nil => exact .nil
  | cons c x ih => exact .word (hx c (by simp)) (ih fun d hd => hx d (by simp [hd]))

theorem ChainRest.append_hyphen {x y : List Char} (hx : ChainRest x) {d : Char}
    (hd : isWordChar d = true) (hy : ChainRest y) : ChainRest (x ++ '-' :: d :: y) := by
  induction hx with
  | nil => exact .hyphen hd hy
  | word hc _ ih => exact .word hc ih
  | hyphen hd' _ ih => exact .hyphen hd' ih

/-- A word type and a chain joined by a hyphen make a word type. -/
theorem IsWordType.append_chain {t w : List Char} (ht : IsWordType t) (hw : IsChain w) :
    IsWordType (t ++ '-' :: w) := by
  obtain ⟨d, y, rfl, hd, hy⟩ := hw
  rcases ht with ⟨c, x, rfl, hc, hx⟩ | ⟨t₀, rfl, c, x, rfl, hc, hx⟩
  · exact .inl ⟨c, x ++ '-' :: d :: y, rfl, hc, hx.append_hyphen hd hy⟩
  · exact .inr ⟨_, rfl, c, x ++ '-' :: d :: y, rfl, hc, hx.append_hyphen hd hy⟩

/-- A single word that does not start with a digit. -/
def IsPlainWord (w : List Char) : Prop :=
  ∃ c x, w = c :: x ∧ isWordChar c = true ∧ c.isDigit = false ∧ ∀ d ∈ x, isWordChar d = true

/-- The values that read back as written after a word type: a signed decimal with its unit, or,
with no unit, a single word that does not start with a digit, a `#hex`, a `[bracketed]` literal
or a `$ref`. -/
inductive ReadsBack : List Char → List Char → Prop
  | number {v u : List Char} : IsNumber v → IsUnit u → ReadsBack v u
  | word {w : List Char} : IsPlainWord w → ReadsBack w []
  | hex {hs : List Char} : hs ≠ [] → (∀ c ∈ hs, isHexChar c = true) → ReadsBack ('#' :: hs) []
  | bracket {inner : List Char} : inner ≠ [] → ']' ∉ inner →
      ReadsBack ('[' :: (inner ++ [']'])) []
  | ref {name : List Char} : name ≠ [] → (∀ c ∈ name, isValueBlank c = false) →
      ReadsBack ('$' :: name) []

theorem readNumber_eq_none {x : List Char} (h : ∀ c ∈ x.head?, c ≠ '-' ∧ c.isDigit = false) :
    readNumber x = none := by
  cases hr : readNumber x with
  | none => rfl
  | some p =>
    obtain ⟨v, a⟩ := p
    obtain ⟨rfl, sign, ds, fr, rfl, hsign, ⟨hne, hdd⟩, -⟩ := readNumber_eq_some_iff.1 hr
    obtain ⟨d, ds', rfl⟩ := List.exists_cons_of_ne_nil hne
    rcases hsign with rfl | rfl
    · simpa [hdd d List.mem_cons_self] using h d
    · simpa using h '-'

theorem readWord_eq_none {x : List Char} (h : ∀ c ∈ x.head?, isWordChar c = false) :
    readWord x = none := by
  simp [readWord, chains_eq_nil h]

theorem readHex_eq_none {x : List Char} (h : ∀ c ∈ x.head?, c ≠ '#') : readHex x = none := by
  cases hr : readHex x with
  | none => rfl
  | some p =>
    obtain ⟨v, a⟩ := p
    obtain ⟨rfl, hs, rfl, -⟩ := readHex_eq_some_iff.1 hr
    simp at h

theorem readBracket_eq_none {x : List Char} (h : ∀ c ∈ x.head?, c ≠ '[') :
    readBracket x = none := by
  cases hr : readBracket x with
  | none => rfl
  | some p =>
    obtain ⟨v, a⟩ := p
    obtain ⟨inner, rfl, -⟩ := readBracket_eq_some_iff.1 hr
    simp at h

/-- A value that reads back is read as itself, with its unit left over. -/
theorem readValue_readsBack {v u : List Char} (h : ReadsBack v u) :
    readValue (v ++ u) = some (v, u) := by
  unfold readValue
  cases h with
  | number hv hu =>
    obtain ⟨sign, ds, fr, rfl, hsign, hds, hfr⟩ := hv
    have hhead : ∀ c ∈ u.head?, c.isDigit = false := fun c hc => by
      cases hd : c.isDigit
      · rfl
      · simpa [isUnitChar_of_isDigit hd] using hu c (List.mem_of_mem_head? hc)
    have hnum : readNumber (sign ++ ds ++ fr ++ u) = some (sign ++ ds ++ fr, u) :=
      readNumber_eq_some_iff.2 ⟨rfl, sign, ds, fr, rfl, hsign, hds, hhead, by
        rcases hfr with rfl | hfr
        · refine .inl ⟨rfl, fun d r hdr => ?_⟩
          simpa [isUnitChar] using hu '.' (by simp [hdr])
        · exact .inr hfr⟩
    rw [hnum]
    rfl
  | word hw =>
    obtain ⟨c, x, rfl, hc, hd, hx⟩ := hw
    have hx' : ChainRest x := by
      induction x with
      | nil => exact .nil
      | cons e x ih =>
        exact .word (hx e List.mem_cons_self) (ih fun d hd => hx d (List.mem_cons_of_mem _ hd))
    have hnum : readNumber (c :: x ++ []) = none :=
      readNumber_eq_none (by simp [hd, ne_hyphen_of_isWordChar hc])
    have hword : readWord (c :: x ++ []) = some (c :: x, []) :=
      readWord_eq_some_iff.2 ⟨rfl, ⟨c, x, rfl, hc, hx'⟩, by simp [Stop, Delim]⟩
    rw [hnum, hword]
    rfl
  | @hex hs hne hh =>
    have hnum : readNumber ('#' :: hs ++ []) = none := readNumber_eq_none (by simp)
    have hword : readWord ('#' :: hs ++ []) = none := readWord_eq_none (by simp [isWordChar])
    have hhex : readHex ('#' :: hs ++ []) = some ('#' :: hs, []) :=
      readHex_eq_some_iff.2 ⟨rfl, hs, rfl, hne, hh, by simp⟩
    rw [hnum, hword, hhex]
    rfl
  | @bracket inner hne hin =>
    have hnum : readNumber ('[' :: (inner ++ [']']) ++ []) = none := readNumber_eq_none (by simp)
    have hword : readWord ('[' :: (inner ++ [']']) ++ []) = none :=
      readWord_eq_none (by simp [isWordChar])
    have hhex : readHex ('[' :: (inner ++ [']']) ++ []) = none := readHex_eq_none (by simp)
    have hbr : readBracket ('[' :: (inner ++ [']']) ++ []) = some ('[' :: (inner ++ [']']), []) :=
      readBracket_eq_some_iff.2 ⟨inner, by simp, rfl, hne, hin⟩
    rw [hnum, hword, hhex, hbr]
    rfl
  | @ref name hne hn =>
    have hnum : readNumber ('$' :: name ++ []) = none := readNumber_eq_none (by simp)
    have hword : readWord ('$' :: name ++ []) = none := readWord_eq_none (by simp [isWordChar])
    have hhex : readHex ('$' :: name ++ []) = none := readHex_eq_none (by simp)
    have hbr : readBracket ('$' :: name ++ []) = none := readBracket_eq_none (by simp)
    have hvar : readVariable ('$' :: name ++ []) = some ('$' :: name, []) :=
      readVariable_eq_some_iff.2 ⟨rfl, name, rfl, hne, hn, by simp⟩
    rw [hnum, hword, hhex, hbr, hvar]
    rfl

theorem ReadsBack.isUnit {v u : List Char} (h : ReadsBack v u) : IsUnit u := by
  cases h with
  | number _ hu => exact hu
  | _ => simp [IsUnit]

/-- After a value that reads back, no longer word type can be read: the value starts with a
character that no word type continues with, or has no hyphen for a longer type to stop at. -/
theorem ReadsBack.stops {v u : List Char} (h : ReadsBack v u) :
    (∀ c ∈ (v ++ u).head?, isWordChar c = false) ∨ '-' ∉ v ++ u := by
  cases h with
  | number hv hu =>
    obtain ⟨sign, ds, fr, rfl, hsign, ⟨hne, hdd⟩, hfr⟩ := hv
    rcases hsign with rfl | rfl
    · -- an unsigned number has no hyphen at all
      right
      intro hm
      simp only [List.nil_append, List.mem_append] at hm
      rcases hm with (hm | hm) | hm
      · simpa using hdd '-' hm
      · rcases hfr with rfl | ⟨fs, rfl, -, hfs⟩
        · simp at hm
        · rcases List.mem_cons.1 hm with hm | hm
          · simp at hm
          · simpa using hfs '-' hm
      · exact ne_hyphen_of_isUnitChar (hu '-' hm) rfl
    · left
      simp
  | word hw =>
    obtain ⟨c, x, rfl, hc, -, hx⟩ := hw
    right
    intro hm
    rcases List.mem_cons.1 (by simpa using hm) with hm | hm
    · exact ne_hyphen_of_isWordChar hc hm.symm
    · exact ne_hyphen_of_isWordChar (hx '-' hm) rfl
  | _ => left; simp [isWordChar]

/-- A longer word type than `t` after `t`, a `-` and such a value leaves no value to read. -/
theorem afterType_longer_eq_none {t x : List Char}
    (hx : (∀ c ∈ x.head?, isWordChar c = false) ∨ '-' ∉ x) {t' r : List Char}
    (hmem : (t', r) ∈ wordTypes (t ++ '-' :: x)) (hlt : t.length < t'.length) :
    afterType t' r = none := by
  obtain ⟨hcs, ht', -⟩ := mem_wordTypes.1 hmem
  rcases List.append_eq_append_iff.1 hcs with ⟨as, rfl, has⟩ | ⟨bs, hT, -⟩
  · cases as with
    | nil => simp at hlt
    | cons a w =>
      simp only [List.cons_append, List.cons.injEq] at has
      obtain ⟨rfl, rfl⟩ := has
      obtain ⟨d, w', rfl, hd⟩ := isWordType_append_hyphen ht'
      rcases hx with hx | hx
      · simp [hd] at hx
      · cases hr : afterType (t ++ '-' :: d :: w') r with
        | none => rfl
        | some m =>
          obtain ⟨r', -, -, rfl, -⟩ := afterType_eq_some_iff.1 hr
          simp at hx
  · have := congrArg List.length hT
    simp only [List.length_append] at this
    omega

/-- After a word type, a value that reads back is read with its unit. -/
theorem readTypeValue_readsBack {t v u : List Char} (ht : IsWordType t) (h : ReadsBack v u) :
    readTypeValue (t ++ '-' :: (v ++ u)) = some (t, v, u) := by
  rw [readTypeValue_eq, Option.or_eq_some_iff]
  left
  refine (findSome?_eq_some_iff_of_pairwise (pairwise_wordTypes _)).2
    ⟨(t, '-' :: (v ++ u)), mem_wordTypes.2 ⟨rfl, ht, by simp [Delim]⟩, ?_,
      fun ⟨t', r⟩ hb hlt => afterType_longer_eq_none h.stops hb hlt⟩
  exact afterType_eq_some_iff.2 ⟨v ++ u, v, u, rfl, readValue_readsBack h,
    by rw [List.takeWhile_eq_self_iff.2 h.isUnit]⟩

theorem ChainRest.ne_colon {x : List Char} (hx : ChainRest x) : ':' ∉ x := by
  induction hx with
  | nil => simp
  | word hc _ ih => simp [ih, (ne_colon_of_isWordChar hc).symm]
  | hyphen hd _ ih => simp [ih, (ne_colon_of_isWordChar hd).symm]

theorem IsWordType.ne_colon {t : List Char} (ht : IsWordType t) : ':' ∉ t := by
  rcases ht with ⟨c, x, rfl, hc, hx⟩ | ⟨t₀, rfl, c, x, rfl, hc, hx⟩ <;>
    simp [hx.ne_colon, (ne_colon_of_isWordChar hc).symm]

/-- No prefix and `:` start a text whose first `:`, if any, comes after a character that no
prefix holds. -/
theorem not_isPrefix_of_colon {a b : List Char} (ha : ':' ∉ a)
    (hb : ∀ c ∈ b.head?, isPrefixChar c = false ∧ c ≠ ':') {p r : List Char}
    (h : a ++ b = p ++ ':' :: r) : ¬ IsPrefix p := by
  rintro ⟨-, hp⟩
  rcases List.append_eq_append_iff.1 h with ⟨as, rfl, has⟩ | ⟨bs, rfl, hbs⟩
  · cases as with
    | nil =>
      simp only [List.nil_append] at has
      subst has
      simpa using hb ':' (by simp)
    | cons c as =>
      have hc := hb c (by simp [has])
      simpa [hc.1] using hp c (by simp)
  · cases bs with
    | nil =>
      simp only [List.nil_append] at hbs
      subst hbs
      simpa using hb ':' (by simp)
    | cons c bs =>
      simp only [List.cons_append, List.cons.injEq] at hbs
      simp [← hbs.1] at ha

/-- A colon is none of the characters of a text that satisfy a test a colon fails. -/
theorem colon_not_mem {l : List Char} {q : Char → Bool} (h : ∀ c ∈ l, q c = true)
    (hq : q ':' = false) : ':' ∉ l :=
  fun hm => by simp [h ':' hm] at hq

/-- Written without a prefix, a word type and a value that reads back offer no prefix. -/
theorem ReadsBack.not_isPrefix {t v u : List Char} (ht : IsWordType t) (h : ReadsBack v u)
    {p r : List Char} (hpr : t ++ '-' :: (v ++ u) = p ++ ':' :: r) : ¬ IsPrefix p := by
  have hcolon : ':' ∉ t ++ ['-'] := by simp [ht.ne_colon]
  -- a value with no colon, or one that starts with a character no prefix holds
  have hend : ':' ∉ v ++ u → ¬ IsPrefix p := fun hx =>
    not_isPrefix_of_colon (a := t ++ '-' :: (v ++ u)) (b := []) (by simp [ht.ne_colon, hx])
      (by simp) (by simpa using hpr)
  cases h with
  | number hv hu =>
    obtain ⟨sign, ds, fr, rfl, hsign, ⟨-, hdd⟩, hfr⟩ := hv
    refine hend (fun hm => ?_)
    simp only [List.mem_append] at hm
    rcases hm with ((hm | hm) | hm) | hm
    · rcases hsign with rfl | rfl <;> simp at hm
    · exact colon_not_mem hdd (by decide) hm
    · rcases hfr with rfl | ⟨fs, rfl, -, hfs⟩
      · simp at hm
      · rcases List.mem_cons.1 hm with hm | hm
        · simp at hm
        · exact colon_not_mem hfs (by decide) hm
    · exact colon_not_mem hu (by decide) hm
  | word hw =>
    obtain ⟨c, x, rfl, hc, -, hx⟩ := hw
    refine hend (fun hm => ?_)
    rcases List.mem_cons.1 (by simpa using hm) with hm | hm
    · exact ne_colon_of_isWordChar hc hm.symm
    · exact colon_not_mem hx (by decide) hm
  | hex hne hh =>
    exact hend fun hm => colon_not_mem hh (by decide) (by simpa using hm)
  | @bracket inner hne hin =>
    have hpr' : t ++ ['-'] ++ '[' :: (inner ++ [']']) = p ++ ':' :: r := by simpa using hpr
    exact not_isPrefix_of_colon hcolon (by simp [isPrefixChar]) hpr'
  | @ref name hne hn =>
    have hpr' : t ++ ['-'] ++ '$' :: name = p ++ ':' :: r := by simpa using hpr
    exact not_isPrefix_of_colon hcolon (by simp [isPrefixChar]) hpr'

/-- A class written from no prefix or a prefix, a word type and a value that reads back is found
at its start as those parts. -/
theorem matchAt_readsBack {p t v u : List Char} (hp : p = [] ∨ IsPrefix p) (ht : IsWordType t)
    (h : ReadsBack v u) :
    matchAt (tokenOf p (t, v, u)).render.toList = some (tokenOf p (t, v, u)) := by
  rcases hp with rfl | hp
  · rw [render_tokenOf_bare, matchAt_bare fun p r hpr => h.not_isPrefix ht hpr,
      readTypeValue_readsBack ht h]
    rfl
  · rw [render_tokenOf_prefixed hp.1, matchAt_prefixed hp, readTypeValue_readsBack ht h]
    rfl

/-- The same, said of the class as a string: it parses back as the token it was written from. -/
theorem parseClass_render_of_readsBack {p t v u : String} (hp : p = "" ∨ IsPrefix p.toList)
    (ht : IsWordType t.toList) (h : ReadsBack v.toList u.toList) :
    parseClass (Token.render ⟨p, t, v, u⟩) = some ⟨p, t, v, u⟩ := by
  have htok : tokenOf p.toList (t.toList, v.toList, u.toList) = ⟨p, t, v, u⟩ := by
    simp [tokenOf]
  have hp' : p.toList = [] ∨ IsPrefix p.toList := by simpa using hp
  have hm := matchAt_readsBack hp' ht h
  rw [htok] at hm
  exact matchFrom_eq_some_iff.2 ⟨0, by simpa using hm, by simp⟩

/-- A class written from a prefix (or none), a word type and a value with its unit parses back
as those parts when the value reads back: a signed decimal with its unit, or a single word,
`#hex`, `[bracketed]` literal or `$ref`. When the value is words joined by hyphens, the words
before the last one join the type instead. -/
theorem parseClass_recovers_parts :
    (∀ p T v u : String, (p = "" ∨ IsPrefix p.toList) → IsWordType T.toList →
      ReadsBack v.toList u.toList →
      parseClass (Token.render ⟨p, T, v, u⟩) = some ⟨p, T, v, u⟩) ∧
    (∀ p T ws w u : String, (p = "" ∨ IsPrefix p.toList) → IsWordType T.toList →
      IsChain ws.toList → ReadsBack w.toList u.toList →
      parseClass (Token.render ⟨p, T, ws ++ "-" ++ w, u⟩) = some ⟨p, T ++ "-" ++ ws, w, u⟩) := by
  refine ⟨fun p T v u hp hT h => parseClass_render_of_readsBack hp hT h,
    fun p T ws w u hp hT hws h => ?_⟩
  -- the same text is written by the token whose type takes the leading words
  have hrender : Token.render ⟨p, T, ws ++ "-" ++ w, u⟩ = Token.render ⟨p, T ++ "-" ++ ws, w, u⟩ := by
    simp only [Token.render, String.append_assoc]
  have hT' : IsWordType (T ++ "-" ++ ws).toList := by
    simpa using hT.append_chain hws
  rw [hrender]
  exact parseClass_render_of_readsBack hp hT' h

theorem parseClass_recovers_parts_sm_padding :
    parseClass "sm:p-10px" = some ⟨"sm", "p", "10", "px"⟩ ∧
      parseClass "jc-space-between" = some ⟨"", "jc-space", "between", ""⟩ := by
  have hsm : IsPrefix "sm".toList := ⟨by simp, by simp [isPrefixChar]⟩
  have hp : IsWordType "p".toList := .inl ⟨'p', [], by simp, by decide, .nil⟩
  have hjc : IsWordType "jc".toList := .inl ⟨'j', ['c'], by simp, by decide, .word (by decide) .nil⟩
  have h10 : ReadsBack "10".toList "px".toList :=
    .number ⟨[], ['1', '0'], [], by simp, .inl rfl, ⟨by simp, by simp⟩, .inl rfl⟩
      (by simp [IsUnit, isUnitChar])
  have hspace : IsChain "space".toList :=
    ⟨'s', ['p', 'a', 'c', 'e'], by simp, by decide, .of_words (by simp [isWordChar])⟩
  have hbetween : ReadsBack "between".toList "".toList :=
    .word ⟨'b', ['e', 't', 'w', 'e', 'e', 'n'], by simp, by decide, by decide,
      by simp [isWordChar]⟩
  exact ⟨(parseClass_recovers_parts).1 "sm" "p" "10" "px" (.inr hsm) hp h10,
    (parseClass_recovers_parts).2 "" "jc" "space" "between" "" (.inl rfl) hjc hspace hbetween⟩

/-- A default type written with a hyphenated word value does not read back as written: the
type takes the value's first word. -/
theorem hyphenated_value_joins_type :
    ("jc", ["justifyContent"]) ∈ defaultProperties ∧ IsWordType "jc".toList ∧
      IsValue "space-between".toList ∧
      parseClass (Token.render ⟨"", "jc", "space-between", ""⟩) =
        some ⟨"", "jc-space", "between", ""⟩ := by
  have hrest : ChainRest (['p', 'a', 'c', 'e'] ++ '-' :: 'b' :: ['e', 't', 'w', 'e', 'e', 'n']) :=
    (ChainRest.of_words (by simp [isWordChar])).append_hyphen (by decide)
      (ChainRest.of_words (by simp [isWordChar]))
  refine ⟨by simp [defaultProperties], .inl ⟨'j', ['c'], by simp, by decide, .word (by decide) .nil⟩,
    .chain ⟨'s', _, by simp, by decide, hrest⟩, ?_⟩
  simp only [parseClass, Token.render]
  simp
  decide

end UtilityStyles.Class
