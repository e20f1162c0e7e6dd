import UtilityStyles.Color
import UtilityStyles.Proofs.ReferencePositions
import Mathlib
/-!
# Where colour classes are found

The colour search does not read class names. It looks for each of its nine patterns, one colour
type and one form each, anywhere in the raw class attribute, and writes the value of the
leftmost match of each pattern that matches at all. A pattern is `type-rgb(args)`,
`type-rgba(args)` (the arguments run to the first `)` and are not empty) or `type-` followed by
hex digits (the longest run of them, cut at six, of at least three).

So a match may start inside a class name (`x-bg-fff` writes a background) and the hex digits
may stop inside one (`tc-deep-purple` writes the colour `#dee`).

## Main definitions

* `LeftmostMatch` : the value a pattern gives at the leftmost place of a text where it matches.
* `FunctionAt`, `HexAt` : the patterns, at the start of a text.
* `colorPatterns`, `Scanned` : the writes of a search by patterns in turn.

## Main statements

* `firstMatch_eq_some_iff`, `firstMatch_eq_none_iff` : a search finds the leftmost match.
* `functionArgsAt_eq_some_iff`, `hexAt_eq_some_iff` : what each form reads.
* `more_color_writes_leftmost_matches` : the writes are those of the leftmost matches, in order.
-/

namespace UtilityStyles

open UtilityStyles.Text (fields)

/-! ## Leftmost matches -/

/-- `v` is what the leftmost place of `cs` where `P` holds gives: `cs` splits as `pre ++ rest`
with `P rest v`, and `P` gives nothing at any place before. -/
def LeftmostMatch (P : List Char → String → Prop) (cs : List Char) (v : String) : Prop :=
  ∃ pre rest, cs = pre ++ rest ∧ P rest v ∧ ∀ k < pre.length, ∀ w, ¬ P (cs.drop k) w

/-- A probe reads `P` when it gives exactly what `P` gives at the start of a text. -/
def Reads (probe : List Char → Option String) (P : List Char → String → Prop) : Prop :=
  ∀ cs v, probe cs = some v ↔ P cs v

section Leftmost

variable {probe : List Char → Option String} {P : List Char → String → Prop}

theorem Reads.functional (h : Reads probe P) {cs : List Char} {v w : String} (hv : P cs v)
    (hw : P cs w) : v = w :=
  Option.some.inj (((h cs v).2 hv).symm.trans ((h cs w).2 hw))

theorem Reads.map (h : Reads probe P) (f : String → String) :
    Reads (fun cs => (probe cs).map f) fun cs v => ∃ a, P cs a ∧ v = f a := by
  intro cs v
  simp only [Option.map_eq_some_iff, ← h cs]
  exact exists_congr fun a => and_congr_right fun _ => eq_comm

/-- Where `P` gives a value at the start, the leftmost match is there. -/
theorem leftmostMatch_of_at (h : Reads probe P) {cs : List Char} {w : String} (hw : P cs w)
    (v : String) : LeftmostMatch P cs v ↔ v = w := by
  constructor
  · rintro ⟨pre, rest, hcs, hv, hbefore⟩
    cases pre with
    | nil =>
      rw [List.nil_append] at hcs
      exact h.functional (hcs ▸ hv) hw
    | cons c pre => exact absurd hw (hbefore 0 (by simp) w)
  · rintro rfl
    exact ⟨[], cs, rfl, hw, fun k hk => absurd hk (Nat.not_lt_zero k)⟩

/-- Where `P` gives nothing at the start, the leftmost match is the leftmost one of the rest. -/
theorem leftmostMatch_cons_of_none {c : Char} {r : List Char} (hnone : ∀ w, ¬ P (c :: r) w)
    (v : String) : LeftmostMatch P (c :: r) v ↔ LeftmostMatch P r v := by
  constructor
  · rintro ⟨pre, rest, hcs, hv, hbefore⟩
    cases pre with
    | nil =>
      rw [List.nil_append] at hcs
      exact absurd (hcs ▸ hv) (hnone v)
    | cons d pre =>
      obtain ⟨rfl, rfl⟩ := List.cons_eq_cons.1 hcs
      exact ⟨pre, rest, rfl, hv, fun k hk w => hbefore (k + 1) (by simp; omega) w⟩
  · rintro ⟨pre, rest, rfl, hv, hbefore⟩
    refine ⟨c :: pre, rest, rfl, hv, fun k hk w => ?_⟩
    cases k with
    | zero => exact hnone w
    | succ k => exact hbefore k (by simpa using hk) w

/-- A search finds the leftmost match. -/
theorem firstMatch_eq_some_iff (h : Reads probe P) (cs : List Char) (v : String) :
    firstMatch probe cs = some v ↔ LeftmostMatch P cs v := by
  induction cs with
  | nil =>
    rw [firstMatch, h]
    constructor
    · exact fun hv => ⟨[], [], rfl, hv, fun k hk => absurd hk (Nat.not_lt_zero k)⟩
    · rintro ⟨pre, rest, hcs, hv, -⟩
      obtain ⟨-, rfl⟩ := List.append_eq_nil_iff.1 hcs.symm
      exact hv
  | cons c r ih =>
    rw [firstMatch]
    cases hp : probe (c :: r) with
    | some w =>
      rw [Option.orElse_some, leftmostMatch_of_at h ((h _ _).1 hp)]
      exact ⟨fun hw => (Option.some.inj hw).symm, fun hv => hv ▸ rfl⟩
    | none =>
      rw [Option.orElse_none, ih, leftmostMatch_cons_of_none]
      intro w hw
      rw [← h] at hw
      rw [hp] at hw
      cases hw

/-- A search finds nothing exactly when `P` gives nothing anywhere. -/
theorem firstMatch_eq_none_iff (h : Reads probe P) (cs : List Char) :
    firstMatch probe cs = none ↔ ∀ k v, ¬ P (cs.drop k) v := by
  induction cs with
  | nil =>
    simp only [firstMatch, List.drop_nil]
    constructor
    · intro hn k v hv
      rw [← h, hn] at hv
      cases hv
    · exact fun hn => Option.eq_none_iff_forall_ne_some.2 fun v hv => hn 0 v ((h _ _).1 hv)
  | cons c r ih =>
    rw [firstMatch]
    cases hp : probe (c :: r) with
    | some w =>
      simp only [Option.orElse_some, reduceCtorEq, false_iff, not_forall, not_not]
      exact ⟨0, w, (h _ _).1 hp⟩
    | none =>
      rw [Option.orElse_none, ih]
      constructor
      · intro hn k v hv
        cases k with
        | zero => rw [← h, List.drop_zero, hp] at hv; cases hv
        | succ k => exact hn k v hv
      · exact fun hn k v hv => hn (k + 1) v hv

/-- Two leftmost matches of one pattern give one value. -/
theorem LeftmostMatch.unique (h : Reads probe P) {cs : List Char} {v w : String}
    (hv : LeftmostMatch P cs v) (hw : LeftmostMatch P cs w) : v = w :=
  Option.some.inj (((firstMatch_eq_some_iff h cs v).2 hv).symm.trans
    ((firstMatch_eq_some_iff h cs w).2 hw))

theorem LeftmostMatch.exists_at {cs : List Char} {v : String} (hv : LeftmostMatch P cs v) :
    ∃ k, P (cs.drop k) v := by
  obtain ⟨pre, rest, rfl, hrest, -⟩ := hv
  exact ⟨pre.length, by simpa using hrest⟩

/-- Formatting what a search finds is searching for the formatted value. -/
theorem map_firstMatch (f : String → String) (cs : List Char) :
    (firstMatch probe cs).map f = firstMatch (fun cs => (probe cs).map f) cs := by
  induction cs with
  | nil => rfl
  | cons c r ih =>
    simp only [firstMatch]
    cases probe (c :: r) with
    | some w => rfl
    | none => simpa using ih

end Leftmost

/-! ## The two forms -/

theorem exists_eq_append_of_isPrefixOf {head cs : List Char} (h : head.isPrefixOf cs = true) :
    ∃ t, cs = head ++ t := by
  obtain ⟨t, ht⟩ := List.isPrefixOf_iff_prefix.1 h
  exact ⟨t, ht.symm⟩

/-- `type-fn(args)` at the start of a text, and the value it writes: the arguments run to the
first `)` and are not empty; each is trimmed, and they are joined by commas. -/
def FunctionAt (type fn : String) (cs : List Char) (v : String) : Prop :=
  ∃ args rest, cs = (type ++ "-" ++ fn ++ "(").toList ++ args ++ ')' :: rest ∧ args ≠ [] ∧
    ')' ∉ args ∧ v = fn ++ "(" ++ joinArgs (String.ofList args) ++ ")"

/-- `type-` and hex digits at the start of a text, and the value `#digits` it writes: three to
six digits, all there are when fewer than six. -/
def HexAt (type : String) (cs : List Char) (v : String) : Prop :=
  ∃ digits rest, cs = (type ++ "-").toList ++ digits ++ rest ∧ 3 ≤ digits.length ∧
    digits.length ≤ 6 ∧ (∀ c ∈ digits, isHexDigitChar c = true) ∧
    (digits.length = 6 ∨ ∀ c ∈ rest.head?, isHexDigitChar c = false) ∧
    v = "#" ++ String.ofList digits

theorem functionArgsAt_eq_some_iff (head cs : List Char) (a : String) :
    functionArgsAt head cs = some a ↔
      ∃ args rest, cs = head ++ args ++ ')' :: rest ∧ args ≠ [] ∧ ')' ∉ args ∧
        a = String.ofList args := by
  unfold functionArgsAt
  constructor
  · intro h
    split at h
    · rename_i hpre
      obtain ⟨t, rfl⟩ := exists_eq_append_of_isPrefixOf hpre
      dsimp only at h
      split at h
      · rename_i c inner after htake hdrop
        cases h
        -- the arguments are all that precedes the first `)`
        have hsplit := @Lint.eq_of_takeWhile_ne ')' _ ((head ++ t).drop head.length) after
          (by rw [Css.drop_length_takeWhile, hdrop])
        rw [htake] at hsplit
        refine ⟨c :: inner, after, ?_, List.cons_ne_nil _ _, hsplit.2.1, rfl⟩
        rw [List.append_assoc]
        congr 1
        simpa using hsplit.2.2
      · cases h
    · cases h
  · rintro ⟨args, rest, rfl, hne, hclose, rfl⟩
    have hpre : head.isPrefixOf (head ++ args ++ ')' :: rest) = true := by
      rw [List.append_assoc]
      exact List.isPrefixOf_iff_prefix.2 (List.prefix_append _ _)
    have hdrop : (head ++ args ++ ')' :: rest).drop head.length = args ++ ')' :: rest := by
      simp
    rw [if_pos hpre]
    dsimp only
    rw [hdrop, Lint.takeWhile_ne_append hclose,
      Css.dropWhile_append_of_head (by simp), List.dropWhile_eq_nil_iff.2 fun c hc => by
        simpa using ne_of_mem_of_not_mem hc hclose]
    obtain ⟨c, cs', rfl⟩ := List.exists_cons_of_ne_nil hne
    rfl

/-- The hex digits the search takes from a text: at most six of its leading run, followed by a
character that is no hex digit when fewer than six. -/
theorem exists_hexRun (t : List Char) :
    ∃ rest, t = (t.takeWhile isHexDigitChar).take 6 ++ rest ∧
      (((t.takeWhile isHexDigitChar).take 6).length = 6 ∨
        ∀ c ∈ rest.head?, isHexDigitChar c = false) := by
  by_cases h6 : 6 ≤ (t.takeWhile isHexDigitChar).length
  · refine ⟨(t.takeWhile isHexDigitChar).drop 6 ++ t.dropWhile isHexDigitChar, ?_,
      .inl (by simp only [List.length_take]; omega)⟩
    rw [← List.append_assoc, List.take_append_drop, List.takeWhile_append_dropWhile]
  · rw [List.take_of_length_le (by omega)]
    refine ⟨t.dropWhile isHexDigitChar, List.takeWhile_append_dropWhile.symm, .inr fun c hc => ?_⟩
    cases hd : t.dropWhile isHexDigitChar with
    | nil => rw [hd] at hc; cases hc
    | cons d r =>
      rw [hd, List.head?_cons, Option.mem_def, Option.some.injEq] at hc
      subst hc
      obtain ⟨-, -, -, hdp⟩ := Lint.eq_of_dropWhile_eq_cons hd
      exact hdp

theorem hexAt_eq_some_iff (head cs : List Char) (h : String) :
    hexAt head cs = some h ↔
      ∃ digits rest, cs = head ++ digits ++ rest ∧ 3 ≤ digits.length ∧ digits.length ≤ 6 ∧
        (∀ c ∈ digits, isHexDigitChar c = true) ∧
        (digits.length = 6 ∨ ∀ c ∈ rest.head?, isHexDigitChar c = false) ∧
        h = String.ofList digits := by
  unfold hexAt
  constructor
  · intro hh
    split at hh
    · rename_i hpre
      obtain ⟨t, rfl⟩ := exists_eq_append_of_isPrefixOf hpre
      dsimp only at hh
      split at hh
      · rename_i hlen
        cases hh
        rw [List.drop_left] at hlen ⊢
        obtain ⟨rest, hrest, hend⟩ := exists_hexRun t
        exact ⟨_, rest, by rw [List.append_assoc, ← hrest], hlen, List.length_take_le 6 _,
          fun c hc => List.mem_takeWhile_imp (List.mem_of_mem_take hc), hend, rfl⟩
      · cases hh
    · cases hh
  · rintro ⟨digits, rest, rfl, h3, h6, hhex, hend, rfl⟩
    have hpre : head.isPrefixOf (head ++ digits ++ rest) = true := by
      rw [List.append_assoc]
      exact List.isPrefixOf_iff_prefix.2 (List.prefix_append _ _)
    have hdigits : (((head ++ digits ++ rest).drop head.length).takeWhile isHexDigitChar).take 6 =
        digits := by
      rw [List.append_assoc, List.drop_left, List.takeWhile_append_of_pos hhex]
      rcases hend with h6' | hnot
      · rw [List.take_append_of_le_length (by omega), List.take_of_length_le (by omega)]
      · have hnil : rest.takeWhile isHexDigitChar = [] := by
          cases rest with
          | nil => rfl
          | cons c r => simp [hnot c rfl]
        rw [hnil, List.append_nil, List.take_of_length_le h6]
    rw [if_pos hpre]
    dsimp only
    rw [hdigits, if_pos h3]

theorem reads_function (type fn : String) :
    Reads (fun cs => (functionArgsAt (type ++ "-" ++ fn ++ "(").toList cs).map
      fun a => fn ++ "(" ++ joinArgs a ++ ")") (FunctionAt type fn) := by
  intro cs v
  simp only [Option.map_eq_some_iff, functionArgsAt_eq_some_iff, FunctionAt]
  constructor
  · rintro ⟨a, ⟨args, rest, hcs, hne, hclose, rfl⟩, rfl⟩
    exact ⟨args, rest, hcs, hne, hclose, rfl⟩
  · rintro ⟨args, rest, hcs, hne, hclose, rfl⟩
    exact ⟨_, ⟨args, rest, hcs, hne, hclose, rfl⟩, rfl⟩

theorem reads_hex (type : String) :
    Reads (fun cs => (hexAt (type ++ "-").toList cs).map fun h => "#" ++ h) (HexAt type) := by
  intro cs v
  simp only [Option.map_eq_some_iff, hexAt_eq_some_iff, HexAt]
  constructor
  · rintro ⟨h, ⟨digits, rest, hcs, h3, h6, hhex, hend, rfl⟩, rfl⟩
    exact ⟨digits, rest, hcs, h3, h6, hhex, hend, rfl⟩
  · rintro ⟨digits, rest, hcs, h3, h6, hhex, hend, rfl⟩
    exact ⟨_, ⟨digits, rest, hcs, h3, h6, hhex, hend, rfl⟩, rfl⟩

/-! ## The writes of a search -/

/-- A search finds a pattern: it gives the value of the leftmost match, and nothing when the
pattern matches nowhere. -/
structure Searches (form : List Char → Option String) (P : List Char → String → Prop) : Prop where
  some_iff : ∀ cs v, form cs = some v ↔ LeftmostMatch P cs v
  none_iff : ∀ cs, form cs = none ↔ ∀ k v, ¬ P (cs.drop k) v

theorem Searches.of_reads {probe : List Char → Option String} {P : List Char → String → Prop}
    (h : Reads probe P) : Searches (firstMatch probe) P :=
  ⟨firstMatch_eq_some_iff h, firstMatch_eq_none_iff h⟩

/-- The colour patterns in the order they are tried, each with the property it writes: for each
colour type, `type-rgb(args)`, `type-rgba(args)` and `type-` with hex digits. -/
def colorPatterns : List (String × (List Char → String → Prop)) :=
  colorTypes.flatMap fun (type, property) =>
    [(property, FunctionAt type "rgb"), (property, FunctionAt type "rgba"), (property, HexAt type)]

/-- The writes of a search of `cs` by patterns in turn: for each pattern that matches
somewhere, its property with the value of its leftmost match; nothing for one that matches
nowhere. -/
inductive Scanned (cs : List Char) :
    List (String × (List Char → String → Prop)) → List (String × String) → Prop
  | nil : Scanned cs [] []
  | hit {property : String} {P : List Char → String → Prop} {pats ws} {v : String} :
      LeftmostMatch P cs v → Scanned cs pats ws →
      Scanned cs ((property, P) :: pats) ((property, v) :: ws)
  | miss {property : String} {P : List Char → String → Prop} {pats ws} :
      (∀ k v, ¬ P (cs.drop k) v) → Scanned cs pats ws → Scanned cs ((property, P) :: pats) ws

section Scan

variable {cs : List Char}

theorem Scanned.append {pats pats' : List (String × (List Char → String → Prop))}
    {ws ws' : List (String × String)} (h : Scanned cs pats ws) (h' : Scanned cs pats' ws') :
    Scanned cs (pats ++ pats') (ws ++ ws') := by
  induction h with
  | nil => exact h'
  | hit hv _ ih => exact .hit hv ih
  | miss hnone _ ih => exact .miss hnone ih

/-- Searching by forms in turn, each writing one property, gives the writes of its patterns. -/
theorem scanned_filterMap (property : String) :
    ∀ {forms : List (List Char → Option String)} {pats : List (List Char → String → Prop)},
      List.Forall₂ Searches forms pats →
      Scanned cs (pats.map (property, ·)) (forms.filterMap fun form => (form cs).map (property, ·))
  | [], [], .nil => .nil
  | form :: forms, P :: pats, .cons hform hrest => by
    have ih := scanned_filterMap property hrest
    cases hf : form cs with
    | none =>
      rw [List.map_cons, List.filterMap_cons_none (by simp [hf])]
      exact .miss ((hform.none_iff cs).1 hf) ih
    | some v =>
      rw [List.map_cons, List.filterMap_cons_some (b := (property, v)) (by simp [hf])]
      exact .hit ((hform.some_iff cs v).1 hf) ih

/-- Patterns each found by some search have one list of writes. -/
theorem Scanned.unique {pats : List (String × (List Char → String → Prop))}
    (hpats : ∀ p ∈ pats, ∃ form, Searches form p.2) {ws ws' : List (String × String)}
    (h : Scanned cs pats ws) (h' : Scanned cs pats ws') : ws = ws' := by
  induction h generalizing ws' with
  | nil => cases h'; rfl
  | @hit property P pats ws v hv _ ih =>
    obtain ⟨form, hform⟩ := hpats (property, P) List.mem_cons_self
    have hrest := fun p hp => hpats p (List.mem_cons_of_mem _ hp)
    cases h' with
    | hit hw h' =>
      rw [Option.some.inj (((hform.some_iff cs v).2 hv).symm.trans ((hform.some_iff cs _).2 hw)),
        ih hrest h']
    | miss hnone _ =>
      obtain ⟨k, hk⟩ := hv.exists_at
      exact absurd hk (hnone k v)
  | @miss property P pats ws hnone _ ih =>
    have hrest := fun p hp => hpats p (List.mem_cons_of_mem _ hp)
    cases h' with
    | hit hw _ =>
      obtain ⟨k, hk⟩ := hw.exists_at
      exact absurd hk (hnone k _)
    | miss _ h' => exact ih hrest h'

end Scan

theorem exists_searches_of_mem {forms : List (List Char → Option String)}
    {pats : List (List Char → String → Prop)} (h : List.Forall₂ Searches forms pats)
    {P : List Char → String → Prop} (hP : P ∈ pats) : ∃ form, Searches form P := by
  induction h with
  | nil => cases hP
  | cons hform _ ih =>
    rcases List.mem_cons.1 hP with rfl | hP
    · exact ⟨_, hform⟩
    · exact ih hP

/-- Each colour type's searches find its three patterns. -/
theorem searches_colorForms (type : String) :
    List.Forall₂ Searches (colorForms type) [FunctionAt type "rgb", FunctionAt type "rgba", HexAt type] := by
  -- each search formats what it finds, which is searching for the formatted value
  have hform : ∀ (probe : List Char → Option String) (f : String → String) (P : List Char → String → Prop),
      Reads (fun cs => (probe cs).map f) P → Searches (fun cs => (firstMatch probe cs).map f) P :=
    fun probe f P h => by
      have hmap : (fun cs => (firstMatch probe cs).map f) = firstMatch fun cs => (probe cs).map f :=
        funext fun cs => map_firstMatch f cs
      rw [hmap]
      exact Searches.of_reads h
  have hrgb : (type ++ "-rgb(") = type ++ "-" ++ "rgb" ++ "(" := by simp [String.append_assoc]
  have hrgba : (type ++ "-rgba(") = type ++ "-" ++ "rgba" ++ "(" := by simp [String.append_assoc]
  refine .cons ?_ (.cons ?_ (.cons ?_ .nil))
  · exact hform _ _ _ (hrgb ▸ reads_function type "rgb")
  · exact hform _ _ _ (hrgba ▸ reads_function type "rgba")
  · exact hform _ _ _ (reads_hex type)

/-- The colour search writes what the patterns' leftmost matches give, in order. -/
theorem scanned_colorWrites (attr : String) : Scanned attr.toList colorPatterns (colorWrites attr) := by
  have htype : ∀ type property : String, Scanned attr.toList
      [(property, FunctionAt type "rgb"), (property, FunctionAt type "rgba"), (property, HexAt type)]
      ((colorForms type).filterMap fun form => (form attr.toList).map (property, ·)) :=
    fun type property => scanned_filterMap property (searches_colorForms type)
  simp only [colorWrites, colorPatterns, colorTypes, List.flatMap_cons, List.flatMap_nil,
    List.append_nil]
  exact (htype _ _).append ((htype _ _).append (htype _ _))

/-- **The colour search.** For every class attribute, the writes of the colour search are
exactly these: for each of the nine colour patterns in turn (types `bg`, `tc`, `border`; forms
`rgb`, `rgba`, hex), when the pattern matches anywhere in the raw attribute, its property with
the value of its leftmost match. A match need not start a class name, and hex digits need not
end one. -/
theorem more_color_writes_leftmost_matches (attr : String) (ws : List (String × String)) :
    colorWrites attr = ws ↔ Scanned attr.toList colorPatterns ws := by
  have hpats : ∀ p ∈ colorPatterns, ∃ form, Searches form p.2 := by
    intro p hp
    obtain ⟨⟨type, property⟩, -, hp⟩ := List.mem_flatMap.1 hp
    have hP : p.2 ∈ [FunctionAt type "rgb", FunctionAt type "rgba", HexAt type] := by
      simp only [List.mem_cons, List.not_mem_nil, or_false] at hp
      rcases hp with rfl | rfl | rfl <;> simp
    exact exists_searches_of_mem (searches_colorForms type) hP
  constructor
  · rintro rfl
    exact scanned_colorWrites attr
  · intro h
    exact Scanned.unique hpats (scanned_colorWrites attr) h

/-- In `x-bg-fff tc-deep-purple` neither class name is a colour class: `x-bg-fff` does not start
with a colour type, and the hex digits of `tc-deep-purple` stop inside the word. The search
writes a background and a colour. -/
theorem color_search_matches_inside_class_names :
    fields "x-bg-fff tc-deep-purple" = ["x-bg-fff", "tc-deep-purple"] ∧
    colorWrites "x-bg-fff tc-deep-purple" = [("background", "#fff"), ("color", "#dee")] :=
  ⟨by decide, by decide⟩

end UtilityStyles
