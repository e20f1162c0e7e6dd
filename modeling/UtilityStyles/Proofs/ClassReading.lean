import UtilityStyles.Class.Grammar
import Mathlib
/-!
# What the readers of a class read

The readers behind `parseClass` take a value, a chain of words or a type from the start of a
text. Each is described by what it takes and by what it leaves: `readX x = some (v, a)` exactly
when `x = v ++ a`, `v` has the reader's form and `a` could not have been taken further.

The value readers share three properties (`Reader.Stable`): what they take is a start of the
text; cutting off text after what they leave changes nothing; and adding text never makes them
fail. `readValue`, which tries the alternatives in order, has the same properties.

## Main definitions

* `Delim`, `Stop` : what may follow a chain in a list of chains, and after the longest chain.
* `Reader.Stable` : the three properties of a value reader.

## Main statements

* `span_eq_iff` : a `span` splits off the longest run of its characters.
* `mem_chainsFrom`, `getLast?_chainsFrom` : the chains a text starts with, and the longest.
* `readValue_stable`, `isValue_of_readValue`, `isSome_readValue_of_isValue`.
-/

namespace UtilityStyles.Class

/-! ## Characters -/

theorem toNat_of_isDigit {c : Char} (h : c.isDigit = true) : 48 ≤ c.toNat ∧ c.toNat ≤ 57 := by
  simp only [Char.isDigit, Bool.and_eq_true, decide_eq_true_eq] at h
  exact ⟨h.1, h.2⟩

theorem toNat_of_isAlpha {c : Char} (h : c.isAlpha = true) :
    (65 ≤ c.toNat ∧ c.toNat ≤ 90) ∨ (97 ≤ c.toNat ∧ c.toNat ≤ 122) := by
  simp only [Char.isAlpha, Char.isUpper, Char.isLower, Bool.or_eq_true, Bool.and_eq_true,
    decide_eq_true_eq] at h
  exact h

/-- A digit never starts a unit, so a number's unit begins after its last digit. -/
theorem isUnitChar_of_isDigit {c : Char} (h : c.isDigit = true) : isUnitChar c = false := by
  have hd := toNat_of_isDigit h
  cases hu : isUnitChar c
  · rfl
  · simp only [isUnitChar, Bool.or_eq_true, beq_iff_eq] at hu
    rcases hu with hu | rfl
    · have := toNat_of_isAlpha hu
      omega
    · simp at hd

@[simp] theorem isWordChar_hyphen : isWordChar '-' = false := by decide

theorem ne_hyphen_of_isWordChar {c : Char} (h : isWordChar c = true) : c ≠ '-' := by
  rintro rfl; simp [isWordChar] at h

theorem ne_colon_of_isWordChar {c : Char} (h : isWordChar c = true) : c ≠ ':' := by
  rintro rfl; simp [isWordChar] at h

theorem ne_hyphen_of_isUnitChar {c : Char} (h : isUnitChar c = true) : c ≠ '-' := by
  rintro rfl; simp [isUnitChar] at h

/-! ## Runs of characters -/

/-- A `span` splits off the longest start of the text whose characters satisfy `p`. -/
theorem span_eq_iff {p : Char → Bool} {x w r : List Char} :
    span p x = (w, r) ↔ x = w ++ r ∧ (∀ c ∈ w, p c = true) ∧ ∀ c ∈ r.head?, p c = false := by
  constructor
  · intro h
    simp only [span, Prod.mk.injEq] at h
    obtain ⟨rfl, rfl⟩ := h
    refine ⟨List.takeWhile_append_dropWhile.symm, fun c hc => List.mem_takeWhile_imp hc, ?_⟩
    intro c hc
    have := List.head?_dropWhile_not p x
    rwa [Option.mem_def.1 hc] at this
  · rintro ⟨rfl, hw, hr⟩
    simp only [span, List.takeWhile_append_of_pos hw, List.dropWhile_append_of_pos hw]
    cases r with
    | nil => simp
    | cons c r => simp [hr c rfl]

/-! ## Chains of words -/

/-- What may follow a chain in the list of chains a text starts with: no word character. -/
def Delim (r : List Char) : Prop := ∀ c ∈ r.head?, isWordChar c = false

/-- What follows the longest chain a text starts with: no word character, and no hyphen before
one. -/
def Stop (r : List Char) : Prop := Delim r ∧ ∀ d r', r = '-' :: d :: r' → isWordChar d = false

theorem chainRest_cons_iff {c : Char} (hc : isWordChar c = true) {x : List Char} :
    ChainRest (c :: x) ↔ ChainRest x := by
  constructor
  · rintro (_ | ⟨_, h⟩ | ⟨_, _⟩)
    · exact h
    · exact absurd rfl (ne_hyphen_of_isWordChar hc)
  · exact ChainRest.word hc

theorem chainRest_hyphen_iff {y : List Char} :
    ChainRest ('-' :: y) ↔ ∃ d x, y = d :: x ∧ isWordChar d = true ∧ ChainRest x := by
  constructor
  · rintro (_ | ⟨hc, _⟩ | ⟨hd, h⟩)
    · exact absurd rfl (ne_hyphen_of_isWordChar hc)
    · exact ⟨_, _, rfl, hd, h⟩
  · rintro ⟨d, x, rfl, hd, h⟩
    exact ChainRest.hyphen hd h

theorem not_chainRest_cons {c : Char} (hc : isWordChar c = false) (hh : c ≠ '-') {x : List Char} :
    ¬ ChainRest (c :: x) := by
  rintro (_ | ⟨hw, _⟩ | ⟨_, _⟩)
  · simp [hc] at hw
  · exact hh rfl

/-- A continuation of a chain by a text that starts with `c`: nothing, or `c` and more. -/
theorem exists_chainRest_cons {P : List Char → Prop} {acc t r rest : List Char} {c : Char} :
    (∃ x, t = acc ++ x ∧ c :: rest = x ++ r ∧ ChainRest x ∧ P r) ↔
      (t = acc ∧ r = c :: rest ∧ P (c :: rest)) ∨
        ∃ x, t = acc ++ c :: x ∧ rest = x ++ r ∧ ChainRest (c :: x) ∧ P r := by
  constructor
  · rintro ⟨x, rfl, hx, hc, hr⟩
    rcases List.cons_eq_append_iff.1 hx with ⟨rfl, rfl⟩ | ⟨x', rfl, rfl⟩
    · exact .inl ⟨by simp, rfl, hr⟩
    · exact .inr ⟨x', rfl, rfl, hc, hr⟩
  · rintro (⟨rfl, rfl, hr⟩ | ⟨x, rfl, rfl, hc, hr⟩)
    · exact ⟨[], by simp, rfl, .nil, hr⟩
    · exact ⟨c :: x, rfl, rfl, hc, hr⟩

theorem stop_nil : Stop [] := ⟨by simp [Delim], by simp⟩

/-- A text starting with a character that is no word character stops a chain, unless the
character is a hyphen before a word character. -/
theorem stop_cons {c : Char} {rest : List Char} (hc : isWordChar c = false)
    (hd : ∀ d r', c = '-' → rest = d :: r' → isWordChar d = false) : Stop (c :: rest) :=
  ⟨by simpa [Delim] using hc, fun d r' h => hd d r' (List.cons.inj h).1 (List.cons.inj h).2⟩

/-- Where a chain stops, nothing but the empty rest of a chain starts. -/
theorem Stop.chainRest_eq_nil {cs : List Char} (h : Stop cs) {x y : List Char}
    (hxy : cs = x ++ y) (hx : ChainRest x) : x = [] := by
  cases hx with
  | nil => rfl
  | @word c _ hc _ =>
    subst hxy
    have := h.1 c (by simp)
    simp [hc] at this
  | hyphen hd _ =>
    subst hxy
    simpa [hd] using h.2 _ _ rfl

/-- Where a chain stops, it continues only by nothing. -/
theorem exists_chainRest_of_stop {P : List Char → Prop} {acc t r cs : List Char} (hcs : Stop cs) :
    (∃ x, t = acc ++ x ∧ cs = x ++ r ∧ ChainRest x ∧ P r) ↔ t = acc ∧ r = cs ∧ P cs := by
  constructor
  · rintro ⟨x, rfl, rfl, hx, hr⟩
    obtain rfl := hcs.chainRest_eq_nil rfl hx
    simpa using hr
  · rintro ⟨rfl, rfl, hr⟩
    exact ⟨[], by simp, rfl, .nil, hr⟩

/-- The chains that extend `acc` at the start of `cs`: every way to continue `acc` by a chain's
rest that a non-word character, or the end, follows. -/
theorem mem_chainsFrom {acc cs t r : List Char} :
    (t, r) ∈ chainsFrom acc cs ↔
      ∃ x, t = acc ++ x ∧ cs = x ++ r ∧ ChainRest x ∧ Delim r := by
  fun_induction chainsFrom acc cs with
  | case1 acc =>
    rw [exists_chainRest_of_stop stop_nil]
    simp [stop_nil.1]
  | case2 acc c rest hc ih =>
    -- a word character always continues the chain
    rw [ih, exists_chainRest_cons]
    simp only [Delim, List.head?_cons, Option.mem_def, Option.some.injEq, forall_eq', hc,
      Bool.true_eq_false, and_false, false_or, chainRest_cons_iff hc, List.append_assoc,
      List.singleton_append]
  | case3 acc c hc hh d more hd ih =>
    -- a hyphen before a word character ends one chain and continues a longer one
    obtain rfl : c = '-' := by simpa using hh
    have hdelim : Delim ('-' :: d :: more) := by simp [Delim]
    rw [List.mem_cons, ih, exists_chainRest_cons]
    simp only [Prod.mk.injEq, chainRest_hyphen_iff, hdelim, and_true]
    refine or_congr Iff.rfl ⟨?_, ?_⟩
    · rintro ⟨x, rfl, rfl, hx, hr⟩
      exact ⟨d :: x, by simp, rfl, ⟨d, x, rfl, hd, hx⟩, hr⟩
    · rintro ⟨_, rfl, hdm, ⟨d', x, rfl, -, hx⟩, hr⟩
      obtain ⟨rfl, rfl⟩ := List.cons_eq_cons.1 hdm
      exact ⟨x, by simp, rfl, hx, hr⟩
  | case4 acc c hc hh d more hd =>
    -- a hyphen before anything else ends the only chain
    have hstop : Stop (c :: d :: more) :=
      stop_cons (by simpa using hc) fun _ _ _ h => by cases h; simpa using hd
    rw [exists_chainRest_of_stop hstop]
    simp [hstop.1]
  | case5 acc c hc hh =>
    have hstop : Stop [c] := stop_cons (by simpa using hc) fun _ _ _ h => nomatch h
    rw [exists_chainRest_of_stop hstop]
    simp [hstop.1]
  | case6 acc c rest hc hh =>
    -- any other character ends the only chain
    have hstop : Stop (c :: rest) :=
      stop_cons (by simpa using hc) fun _ _ h => absurd h (by simpa using hh)
    rw [exists_chainRest_of_stop hstop]
    simp [hstop.1]

theorem chainsFrom_ne_nil (acc cs : List Char) : chainsFrom acc cs ≠ [] := by
  fun_induction chainsFrom acc cs <;> simp_all

/-- The longest chain extending `acc` at the start of `cs`: the one that neither a word character
nor a hyphen before one follows. -/
theorem getLast?_chainsFrom {acc cs t r : List Char} :
    (chainsFrom acc cs).getLast? = some (t, r) ↔
      ∃ x, t = acc ++ x ∧ cs = x ++ r ∧ ChainRest x ∧ Stop r := by
  fun_induction chainsFrom acc cs with
  | case1 acc =>
    rw [exists_chainRest_of_stop stop_nil]
    simp [stop_nil, eq_comm]
  | case2 acc c rest hc ih =>
    rw [ih, exists_chainRest_cons]
    simp only [Stop, Delim, List.head?_cons, Option.mem_def, Option.some.injEq, forall_eq', hc,
      Bool.true_eq_false, false_and, and_false, false_or, chainRest_cons_iff hc,
      List.append_assoc, List.singleton_append]
  | case3 acc c hc hh d more hd ih =>
    -- the longer chains come last
    obtain rfl : c = '-' := by simpa using hh
    have hstop : ¬ Stop ('-' :: d :: more) := fun h => by simp [h.2 d more rfl] at hd
    obtain ⟨b, l, hbl⟩ := List.exists_cons_of_ne_nil (chainsFrom_ne_nil (acc ++ ['-', d]) more)
    rw [hbl, List.getLast?_cons_cons, ← hbl, ih, exists_chainRest_cons]
    simp only [chainRest_hyphen_iff, hstop, and_false, false_or]
    constructor
    · rintro ⟨x, rfl, rfl, hx, hr⟩
      exact ⟨d :: x, by simp, rfl, ⟨d, x, rfl, hd, hx⟩, hr⟩
    · rintro ⟨_, rfl, hdm, ⟨d', x, rfl, -, hx⟩, hr⟩
      obtain ⟨rfl, rfl⟩ := List.cons_eq_cons.1 hdm
      exact ⟨x, by simp, rfl, hx, hr⟩
  | case4 acc c hc hh d more hd =>
    have hstop : Stop (c :: d :: more) :=
      stop_cons (by simpa using hc) fun _ _ _ h => by cases h; simpa using hd
    rw [exists_chainRest_of_stop hstop]
    simp [hstop, eq_comm]
  | case5 acc c hc hh =>
    have hstop : Stop [c] := stop_cons (by simpa using hc) fun _ _ _ h => nomatch h
    rw [exists_chainRest_of_stop hstop]
    simp [hstop, eq_comm]
  | case6 acc c rest hc hh =>
    have hstop : Stop (c :: rest) :=
      stop_cons (by simpa using hc) fun _ _ h => absurd h (by simpa using hh)
    rw [exists_chainRest_of_stop hstop]
    simp [hstop, eq_comm]

/-- The chains extending `acc` come shortest first. -/
theorem pairwise_chainsFrom (acc cs : List Char) :
    (chainsFrom acc cs).Pairwise fun a b => a.1.length < b.1.length := by
  fun_induction chainsFrom acc cs with
  | case3 acc c hc hh d more hd ih =>
    refine List.Pairwise.cons ?_ ih
    rintro ⟨t, r⟩ h
    obtain ⟨x, rfl, -⟩ := mem_chainsFrom.1 h
    simp only [List.length_append, List.length_cons, List.length_nil]
    omega
  | case2 => assumption
  | _ => simp

/-- The chains at the start of a text: each chain of the text that no word character follows. -/
theorem mem_chains {cs t r : List Char} :
    (t, r) ∈ chains cs ↔ cs = t ++ r ∧ IsChain t ∧ Delim r := by
  cases cs with
  | nil =>
    simp only [chains, List.not_mem_nil, false_iff, not_and]
    rintro h ⟨c, x, rfl, -⟩
    simp at h
  | cons c rest =>
    by_cases hc : isWordChar c = true
    · simp only [chains, hc, if_true, mem_chainsFrom, IsChain]
      constructor
      · rintro ⟨x, rfl, rfl, hx, hr⟩
        exact ⟨rfl, ⟨c, x, rfl, hc, hx⟩, hr⟩
      · rintro ⟨h, ⟨c', x, rfl, -, hx⟩, hr⟩
        obtain ⟨rfl, rfl⟩ := List.cons_eq_cons.1 h
        exact ⟨x, rfl, rfl, hx, hr⟩
    · have hw : isWordChar c = false := by simpa using hc
      simp only [chains, hw, Bool.false_eq_true, ↓reduceIte, List.not_mem_nil, false_iff,
        not_and]
      rintro h ⟨c', x, rfl, hc', -⟩
      obtain ⟨rfl, -⟩ := List.cons_eq_cons.1 h
      exact absurd hc' hc

/-- The longest chain at the start of a text. -/
theorem getLast?_chains {cs t r : List Char} :
    (chains cs).getLast? = some (t, r) ↔ cs = t ++ r ∧ IsChain t ∧ Stop r := by
  cases cs with
  | nil =>
    simp only [chains, List.getLast?_nil, reduceCtorEq, false_iff, not_and]
    rintro h ⟨c, x, rfl, -⟩
    simp at h
  | cons c rest =>
    by_cases hc : isWordChar c = true
    · simp only [chains, hc, if_true, getLast?_chainsFrom, IsChain]
      constructor
      · rintro ⟨x, rfl, rfl, hx, hr⟩
        exact ⟨rfl, ⟨c, x, rfl, hc, hx⟩, hr⟩
      · rintro ⟨h, ⟨c', x, rfl, -, hx⟩, hr⟩
        obtain ⟨rfl, rfl⟩ := List.cons_eq_cons.1 h
        exact ⟨x, rfl, rfl, hx, hr⟩
    · have hw : isWordChar c = false := by simpa using hc
      simp only [chains, hw, Bool.false_eq_true, ↓reduceIte, List.getLast?_nil, reduceCtorEq,
        false_iff, not_and]
      rintro h ⟨c', x, rfl, hc', -⟩
      obtain ⟨rfl, -⟩ := List.cons_eq_cons.1 h
      exact absurd hc' hc

theorem pairwise_chains (cs : List Char) :
    (chains cs).Pairwise fun a b => a.1.length < b.1.length := by
  cases cs with
  | nil => simp [chains]
  | cons c rest =>
    by_cases hc : isWordChar c = true
    · simp only [chains, hc, if_true]
      exact pairwise_chainsFrom _ _
    · simp [chains, hc]

theorem chains_eq_nil {cs : List Char} (h : ∀ c ∈ cs.head?, isWordChar c = false) :
    chains cs = [] := by
  cases cs with
  | nil => rfl
  | cons c rest => simp [chains, h c rfl]

/-- The word types at the start of a text: each chain, or chain after a `-`, that no word
character follows. -/
theorem mem_wordTypes {cs t r : List Char} :
    (t, r) ∈ wordTypes cs ↔ cs = t ++ r ∧ IsWordType t ∧ Delim r := by
  unfold wordTypes
  split
  · rename_i r₀
    simp only [List.mem_reverse, List.mem_map, Prod.mk.injEq, Prod.exists, IsWordType]
    constructor
    · rintro ⟨t₀, r', hm, rfl, rfl⟩
      obtain ⟨rfl, ht₀, hr⟩ := mem_chains.1 hm
      exact ⟨rfl, .inr ⟨t₀, rfl, ht₀⟩, hr⟩
    · rintro ⟨h, ⟨c, x, rfl, hc, -⟩ | ⟨t₀, rfl, ht₀⟩, hr⟩
      · obtain ⟨rfl, -⟩ := List.cons_eq_cons.1 h
        simp at hc
      · exact ⟨t₀, r, mem_chains.2 ⟨(List.cons_eq_cons.1 h).2, ht₀, hr⟩, rfl, rfl⟩
  · rename_i hcs
    simp only [List.mem_reverse, mem_chains, IsWordType]
    constructor
    · rintro ⟨rfl, ht, hr⟩
      exact ⟨rfl, .inl ht, hr⟩
    · rintro ⟨rfl, ht | ⟨t₀, rfl, -⟩, hr⟩
      · exact ⟨rfl, ht, hr⟩
      · exact absurd rfl (hcs (t₀ ++ r))

/-- The word types at the start of a text come longest first. -/
theorem pairwise_wordTypes (cs : List Char) :
    (wordTypes cs).Pairwise fun a b => b.1.length < a.1.length := by
  unfold wordTypes
  split
  · rw [List.pairwise_reverse, List.pairwise_map]
    exact (pairwise_chains _).imp fun h => by simpa using h
  · rw [List.pairwise_reverse]
    exact pairwise_chains _

/-! ## The value readers -/

/-- How a number read from a text splits: a sign, digits and a fraction, then a rest that goes on
with no digit, and with no `.` and digit after a number without a fraction. -/
def NumberParts (v a : List Char) : Prop :=
  ∃ sign ds fr, v = sign ++ ds ++ fr ∧ (sign = [] ∨ sign = ['-']) ∧ IsDigits ds ∧
    (∀ c ∈ a.head?, c.isDigit = false) ∧
    ((fr = [] ∧ ∀ d r, a = '.' :: d :: r → d.isDigit = false) ∨
      ∃ fs, fr = '.' :: fs ∧ IsDigits fs)

theorem readNumber_eq_some_iff {x v a : List Char} :
    readNumber x = some (v, a) ↔ x = v ++ a ∧ NumberParts v a := by
  constructor
  · intro h
    unfold readNumber at h
    split at h
    rename_i sign body hsb
    have hsign : (sign = [] ∨ sign = ['-']) ∧ x = sign ++ body := by
      split at hsb <;> simp only [Prod.mk.injEq] at hsb <;> obtain ⟨rfl, rfl⟩ := hsb <;> simp
    obtain ⟨hsign, rfl⟩ := hsign
    split at h
    rename_i ds rest hds
    obtain ⟨rfl, hdd, hdr⟩ := span_eq_iff.1 hds
    split at h
    · simp at h
    rename_i hne
    have hds' : IsDigits ds := ⟨by simpa using hne, hdd⟩
    split at h
    · -- a `.` after the digits: a fraction if digits follow it
      rename_i r
      split at h
      rename_i fs after hfs
      obtain ⟨rfl, hfd, hfr⟩ := span_eq_iff.1 hfs
      split at h
      · rename_i hfe
        obtain rfl : fs = [] := by simpa using hfe
        simp only [Option.some.injEq, Prod.mk.injEq] at h
        obtain ⟨rfl, rfl⟩ := h
        refine ⟨by simp, sign, ds, [], by simp, hsign, hds', by simp, .inl ⟨rfl, ?_⟩⟩
        intro d r h
        simp only [List.nil_append, List.cons.injEq, true_and] at h
        subst h
        exact hfr d rfl
      · rename_i hfe
        simp only [Option.some.injEq, Prod.mk.injEq] at h
        obtain ⟨rfl, rfl⟩ := h
        exact ⟨by simp, sign, ds, '.' :: fs, rfl, hsign, hds', hfr,
          .inr ⟨fs, rfl, by simpa using hfe, hfd⟩⟩
    · rename_i hrest
      simp only [Option.some.injEq, Prod.mk.injEq] at h
      obtain ⟨rfl, rfl⟩ := h
      exact ⟨by simp, sign, ds, [], by simp, hsign, hds', hdr,
        .inl ⟨rfl, fun d r h => absurd h (hrest (d :: r))⟩⟩
  · rintro ⟨rfl, sign, ds, fr, rfl, hsign, ⟨hne, hdd⟩, ha, hfr⟩
    obtain ⟨d, ds', rfl⟩ := List.exists_cons_of_ne_nil hne
    have hd : d ≠ '-' := by
      rintro rfl
      simpa using hdd '-' List.mem_cons_self
    have hfa : ∀ c ∈ (fr ++ a).head?, c.isDigit = false := by
      rcases hfr with ⟨rfl, -⟩ | ⟨fs, rfl, -⟩
      · simpa using ha
      · simp
    unfold readNumber
    split
    rename_i sign' body hsb
    -- the sign is read off as written, since the digits do not start with `-`
    obtain ⟨rfl, rfl⟩ : sign' = sign ∧ body = d :: ds' ++ (fr ++ a) := by
      rcases hsign with rfl | rfl
      · split at hsb
        · rename_i r h
          simp only [List.nil_append, List.cons_append, List.append_assoc, List.cons.injEq] at h
          exact absurd h.1 hd
        · simp only [Prod.mk.injEq] at hsb
          obtain ⟨rfl, rfl⟩ := hsb
          simp
      · simp only [List.cons_append, List.nil_append, List.append_assoc, Prod.mk.injEq] at hsb
        obtain ⟨rfl, rfl⟩ := hsb
        simp
    rw [span_eq_iff.2 ⟨rfl, hdd, hfa⟩]
    simp only [List.isEmpty_cons, Bool.false_eq_true, ↓reduceIte]
    rcases hfr with ⟨rfl, hdot⟩ | ⟨fs, rfl, hfs, hfsd⟩
    · -- no fraction: a `.` after the digits is not followed by a digit
      split
      · rename_i r hr
        simp only [List.nil_append] at hr
        subst hr
        have hr : ∀ c ∈ r.head?, c.isDigit = false := by
          cases r with
          | nil => simp
          | cons e r' => simpa using hdot e r' rfl
        have hsp : span Char.isDigit r = ([], r) := span_eq_iff.2 ⟨rfl, by simp, hr⟩
        simp [hsp]
      · simp
    · simp only [List.cons_append]
      rw [span_eq_iff.2 ⟨rfl, hfsd, ha⟩]
      simp [hfs]

/-- A number reading starts wherever a digit stands after an optional `-`. -/
theorem isSome_readNumber {sign y : List Char} {d : Char} (hsign : sign = [] ∨ sign = ['-'])
    (hd : d.isDigit = true) : (readNumber (sign ++ d :: y)).isSome := by
  have hd' : d ≠ '-' := by
    rintro rfl
    simp at hd
  unfold readNumber
  split
  rename_i sign' body hsb
  obtain rfl : body = d :: y := by
    rcases hsign with rfl | rfl
    · split at hsb
      · rename_i r h
        simp only [List.nil_append, List.cons.injEq] at h
        exact absurd h.1 hd'
      · simp only [Prod.mk.injEq] at hsb
        simp [← hsb.2]
    · simp only [List.cons_append, List.nil_append, Prod.mk.injEq] at hsb
      exact hsb.2.symm
  rcases hsp : span Char.isDigit (d :: y) with ⟨ds, rest⟩
  obtain ⟨hdy, -, -⟩ := span_eq_iff.1 hsp
  have hne : ds ≠ [] := by
    rintro rfl
    simp only [List.nil_append] at hdy
    simp [← hdy, span, hd] at hsp
  simp only [List.isEmpty_iff, hne, ↓reduceIte]
  split
  · split <;> rfl
  · rfl

theorem readWord_eq_some_iff {x v a : List Char} :
    readWord x = some (v, a) ↔ x = v ++ a ∧ IsChain v ∧ Stop a :=
  getLast?_chains

theorem isSome_readWord {c : Char} {y : List Char} (hc : isWordChar c = true) :
    (readWord (c :: y)).isSome := by
  simp [readWord, chains, hc, List.getLast?_isSome, chainsFrom_ne_nil]

theorem readHex_eq_some_iff {x v a : List Char} :
    readHex x = some (v, a) ↔ x = v ++ a ∧ ∃ hs, v = '#' :: hs ∧ hs ≠ [] ∧
      (∀ c ∈ hs, isHexChar c = true) ∧ ∀ c ∈ a.head?, isHexChar c = false := by
  constructor
  · intro h
    unfold readHex at h
    split at h
    · rename_i r
      rcases hsp : span isHexChar r with ⟨hs, rest⟩
      obtain ⟨rfl, hh, hr⟩ := span_eq_iff.1 hsp
      simp only [hsp] at h
      split at h
      · simp at h
      · rename_i hne
        simp only [Option.some.injEq, Prod.mk.injEq] at h
        obtain ⟨rfl, rfl⟩ := h
        exact ⟨rfl, hs, rfl, by simpa using hne, hh, hr⟩
    · simp at h
  · rintro ⟨rfl, hs, rfl, hne, hh, ha⟩
    simp [readHex, span_eq_iff.2 ⟨rfl, hh, ha⟩, hne]

theorem isSome_readHex {h : Char} {y : List Char} (hh : isHexChar h = true) :
    (readHex ('#' :: h :: y)).isSome := by
  rcases hsp : span isHexChar (h :: y) with ⟨hs, rest⟩
  have hne : hs ≠ [] := by
    rintro rfl
    simp [span, hh] at hsp
  simp [readHex, hsp, hne]

theorem readBracket_eq_some_iff {x v a : List Char} :
    readBracket x = some (v, a) ↔ ∃ inner, x = '[' :: (inner ++ ']' :: a) ∧
      v = '[' :: (inner ++ [']']) ∧ inner ≠ [] ∧ ']' ∉ inner := by
  constructor
  · intro h
    unfold readBracket at h
    split at h
    · rename_i r
      split at h
      · rename_i i is rest hsp
        obtain ⟨rfl, hin, -⟩ := span_eq_iff.1 hsp
        simp only [Option.some.injEq, Prod.mk.injEq] at h
        obtain ⟨rfl, rfl⟩ := h
        refine ⟨i :: is, rfl, rfl, List.cons_ne_nil _ _, fun hm => ?_⟩
        simpa using hin _ hm
      · simp at h
    · simp at h
  · rintro ⟨inner, rfl, rfl, hne, hin⟩
    obtain ⟨i, is, rfl⟩ := List.exists_cons_of_ne_nil hne
    have hsp : span (· != ']') (i :: (is ++ ']' :: a)) = (i :: is, ']' :: a) :=
      span_eq_iff.2 ⟨rfl, fun c hc => by simpa using ne_of_mem_of_not_mem hc hin, by simp⟩
    simp only [readBracket, List.cons_append, hsp]

theorem readVariable_eq_some_iff {x v a : List Char} :
    readVariable x = some (v, a) ↔ x = v ++ a ∧ ∃ name, v = '$' :: name ∧ name ≠ [] ∧
      (∀ c ∈ name, isValueBlank c = false) ∧ ∀ c ∈ a.head?, isValueBlank c = true := by
  constructor
  · intro h
    unfold readVariable at h
    split at h
    · rename_i r
      rcases hsp : span (fun c => !isValueBlank c) r with ⟨name, rest⟩
      obtain ⟨rfl, hn, hr⟩ := span_eq_iff.1 hsp
      simp only [hsp] at h
      split at h
      · simp at h
      · rename_i hne
        simp only [Option.some.injEq, Prod.mk.injEq] at h
        obtain ⟨rfl, rfl⟩ := h
        exact ⟨rfl, name, rfl, by simpa using hne, fun c hc => by simpa using hn c hc,
          fun c hc => by simpa using hr c hc⟩
    · simp at h
  · rintro ⟨rfl, name, rfl, hne, hn, ha⟩
    have hsp : span (fun c => !isValueBlank c) (name ++ a) = (name, a) :=
      span_eq_iff.2 ⟨rfl, fun c hc => by simp [hn c hc], fun c hc => by simp [ha c hc]⟩
    simp [readVariable, hsp, hne]

theorem isSome_readVariable {c : Char} {y : List Char} (hc : isValueBlank c = false) :
    (readVariable ('$' :: c :: y)).isSome := by
  rcases hsp : span (fun c => !isValueBlank c) (c :: y) with ⟨name, rest⟩
  have hne : name ≠ [] := by
    rintro rfl
    simp [span, hc] at hsp
  simp [readVariable, hsp, hne]

/-- Three properties a value reader shares with a pattern: what it reads is a start of the text;
cutting off text after what it leaves changes nothing; and adding text never makes it fail. -/
structure StableReader (read : List Char → Option (List Char × List Char)) : Prop where
  splits : ∀ {x v a}, read x = some (v, a) → x = v ++ a
  cut : ∀ {v a b}, read (v ++ (a ++ b)) = some (v, a ++ b) → read (v ++ a) = some (v, a)
  extend : ∀ {x s}, (read x).isSome → (read (x ++ s)).isSome

/-- A reader described by what it takes and what it leaves is stable when cutting off the end of
what it leaves keeps the description. -/
theorem StableReader.of_iff {read : List Char → Option (List Char × List Char)}
    {P : List Char → List Char → Prop} (h : ∀ {x v a}, read x = some (v, a) ↔ x = v ++ a ∧ P v a)
    (hcut : ∀ {v a b}, P v (a ++ b) → P v a)
    (hext : ∀ {x s}, (read x).isSome → (read (x ++ s)).isSome) : StableReader read where
  splits hr := (h.1 hr).1
  cut hr := h.2 ⟨rfl, hcut (h.1 hr).2⟩
  extend := hext

/-- Trying two stable readers in turn is a stable reader. -/
theorem StableReader.orElse {f g : List Char → Option (List Char × List Char)}
    (hf : StableReader f) (hg : StableReader g) : StableReader fun x => f x <|> g x where
  splits hr := by
    rcases (Option.orElse_eq_some _ _ _).1 hr with h | ⟨-, h⟩
    · exact hf.splits h
    · exact hg.splits h
  cut {v a b} hr := by
    rcases (Option.orElse_eq_some _ _ _).1 hr with h | ⟨hn, h⟩
    · simp [hf.cut h]
    · -- the first reader fails on the shorter text too, since adding text never makes it fail
      have hn' : f (v ++ a) = none := by
        cases hfa : f (v ++ a) with
        | none => rfl
        | some p =>
          have := @hf.extend (v ++ a) b (by simp [hfa])
          rw [List.append_assoc, hn] at this
          simp at this
      simp [hn', hg.cut h]
  extend {x s} hx := by
    cases hfx : f x with
    | some p =>
      obtain ⟨q, hq⟩ := Option.isSome_iff_exists.1 (@hf.extend x s (by simp [hfx]))
      simp [hq]
    | none =>
      rw [hfx] at hx
      cases hfs : f (x ++ s) with
      | some q => simp
      | none => simpa using @hg.extend x s (by simpa using hx)

/-- What may follow a reader's text: its first character, if any, satisfies `q`. -/
theorem head?_of_append {q : Char → Prop} {a b : List Char} (h : ∀ c ∈ (a ++ b).head?, q c) :
    ∀ c ∈ a.head?, q c := by
  intro c hc
  exact h c (by cases a <;> simp_all)

theorem readNumber_stable : StableReader readNumber := by
  refine .of_iff readNumber_eq_some_iff ?_ ?_
  · rintro v a b ⟨sign, ds, fr, rfl, hsign, hds, ha, hfr⟩
    refine ⟨sign, ds, fr, rfl, hsign, hds, head?_of_append ha, ?_⟩
    rcases hfr with ⟨rfl, hdot⟩ | hfr
    · exact .inl ⟨rfl, fun d r h => hdot d (r ++ b) (by simp [h])⟩
    · exact .inr hfr
  · intro x s hx
    obtain ⟨⟨v, a⟩, h⟩ := Option.isSome_iff_exists.1 hx
    obtain ⟨rfl, sign, ds, fr, rfl, hsign, ⟨hne, hdd⟩, -⟩ := readNumber_eq_some_iff.1 h
    obtain ⟨d, ds', rfl⟩ := List.exists_cons_of_ne_nil hne
    have hx' : sign ++ d :: ds' ++ fr ++ a ++ s = sign ++ d :: (ds' ++ fr ++ a ++ s) := by simp
    rw [hx']
    exact isSome_readNumber hsign (hdd d List.mem_cons_self)

theorem readWord_stable : StableReader readWord := by
  refine .of_iff readWord_eq_some_iff ?_ ?_
  · rintro v a b ⟨hv, hd, hs⟩
    refine ⟨hv, head?_of_append hd, fun d r h => hs d (r ++ b) (by simp [h])⟩
  · intro x s hx
    obtain ⟨⟨v, a⟩, h⟩ := Option.isSome_iff_exists.1 hx
    obtain ⟨rfl, ⟨c, y, rfl, hc, -⟩, -⟩ := readWord_eq_some_iff.1 h
    exact isSome_readWord hc

theorem readHex_stable : StableReader readHex := by
  refine .of_iff readHex_eq_some_iff ?_ ?_
  · rintro v a b ⟨hs, rfl, hne, hh, ha⟩
    exact ⟨hs, rfl, hne, hh, head?_of_append ha⟩
  · intro x s hx
    obtain ⟨⟨v, a⟩, h⟩ := Option.isSome_iff_exists.1 hx
    obtain ⟨rfl, hs, rfl, hne, hh, -⟩ := readHex_eq_some_iff.1 h
    obtain ⟨c, hs', rfl⟩ := List.exists_cons_of_ne_nil hne
    exact isSome_readHex (hh c List.mem_cons_self)

theorem readBracket_stable : StableReader readBracket := by
  refine .of_iff (P := fun v _ => ∃ inner, v = '[' :: (inner ++ [']']) ∧ inner ≠ [] ∧ ']' ∉ inner)
    ?_ (fun h => h) ?_
  · intro x v a
    rw [readBracket_eq_some_iff]
    constructor
    · rintro ⟨inner, rfl, rfl, hne, hin⟩
      exact ⟨by simp, inner, rfl, hne, hin⟩
    · rintro ⟨rfl, inner, rfl, hne, hin⟩
      exact ⟨inner, by simp, rfl, hne, hin⟩
  · intro x s hx
    obtain ⟨⟨v, a⟩, h⟩ := Option.isSome_iff_exists.1 hx
    obtain ⟨inner, rfl, rfl, hne, hin⟩ := readBracket_eq_some_iff.1 h
    have h' : readBracket ('[' :: (inner ++ ']' :: (a ++ s))) =
        some ('[' :: (inner ++ [']']), a ++ s) :=
      readBracket_eq_some_iff.2 ⟨inner, rfl, rfl, hne, hin⟩
    simp [h']

theorem readVariable_stable : StableReader readVariable := by
  refine .of_iff readVariable_eq_some_iff ?_ ?_
  · rintro v a b ⟨name, rfl, hne, hn, ha⟩
    exact ⟨name, rfl, hne, hn, head?_of_append ha⟩
  · intro x s hx
    obtain ⟨⟨v, a⟩, h⟩ := Option.isSome_iff_exists.1 hx
    obtain ⟨rfl, name, rfl, hne, hn, -⟩ := readVariable_eq_some_iff.1 h
    obtain ⟨c, name', rfl⟩ := List.exists_cons_of_ne_nil hne
    exact isSome_readVariable (hn c List.mem_cons_self)

/-- The value reader, which tries the five alternatives in turn, is stable. -/
theorem readValue_stable : StableReader readValue :=
  readNumber_stable.orElse <| readWord_stable.orElse <| readHex_stable.orElse <|
    readBracket_stable.orElse readVariable_stable


theorem isSome_orElse {α : Type} (a b : Option α) : (a <|> b).isSome = (a.isSome || b.isSome) := by
  cases a <;> rfl

/-- What the value reader reads is a value of the grammar. -/
theorem isValue_of_readValue {x v a : List Char} (h : readValue x = some (v, a)) : IsValue v := by
  unfold readValue at h
  rcases (Option.orElse_eq_some _ _ _).1 h with h | ⟨-, h⟩
  · obtain ⟨-, sign, ds, fr, rfl, hsign, hds, -, hfr⟩ := readNumber_eq_some_iff.1 h
    refine .number ⟨sign, ds, fr, rfl, hsign, hds, ?_⟩
    rcases hfr with ⟨rfl, -⟩ | hfr
    · exact .inl rfl
    · exact .inr hfr
  rcases (Option.orElse_eq_some _ _ _).1 h with h | ⟨-, h⟩
  · exact .chain (readWord_eq_some_iff.1 h).2.1
  rcases (Option.orElse_eq_some _ _ _).1 h with h | ⟨-, h⟩
  · obtain ⟨-, hs, rfl, hne, hh, -⟩ := readHex_eq_some_iff.1 h
    exact .hex hne hh
  rcases (Option.orElse_eq_some _ _ _).1 h with h | ⟨-, h⟩
  · obtain ⟨inner, -, rfl, hne, hin⟩ := readBracket_eq_some_iff.1 h
    exact .bracket hne hin
  · obtain ⟨-, name, rfl, hne, hn, -⟩ := readVariable_eq_some_iff.1 h
    exact .ref hne hn

/-- The value reader reads something wherever a value of the grammar stands. -/
theorem isSome_readValue_of_isValue {v : List Char} (hv : IsValue v) (s : List Char) :
    (readValue (v ++ s)).isSome := by
  unfold readValue
  simp only [isSome_orElse, Bool.or_eq_true]
  cases hv with
  | number hn =>
    obtain ⟨sign, ds, fr, rfl, hsign, ⟨hne, hdd⟩, -⟩ := hn
    obtain ⟨d, ds', rfl⟩ := List.exists_cons_of_ne_nil hne
    have hx : sign ++ d :: ds' ++ fr ++ s = sign ++ d :: (ds' ++ fr ++ s) := by simp
    exact .inl (hx ▸ isSome_readNumber hsign (hdd d List.mem_cons_self))
  | chain hc =>
    obtain ⟨c, x, rfl, hc, -⟩ := hc
    exact .inr (.inl (isSome_readWord hc))
  | hex hne hh =>
    obtain ⟨h, hs, rfl⟩ := List.exists_cons_of_ne_nil hne
    exact .inr (.inr (.inl (isSome_readHex (hh h List.mem_cons_self))))
  | @bracket inner hne hin =>
    have h : readBracket ('[' :: (inner ++ ']' :: s)) = some ('[' :: (inner ++ [']']), s) :=
      readBracket_eq_some_iff.2 ⟨inner, rfl, rfl, hne, hin⟩
    exact .inr (.inr (.inr (.inl (by simp [h]))))
  | ref hne hn =>
    obtain ⟨c, name, rfl⟩ := List.exists_cons_of_ne_nil hne
    exact .inr (.inr (.inr (.inr (isSome_readVariable (hn c List.mem_cons_self)))))

end UtilityStyles.Class
