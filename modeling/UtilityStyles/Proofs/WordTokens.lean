import UtilityStyles.Css.Lexer
import Mathlib
/-!
# Tokens of plain words

What the tokenizer makes of a word of ASCII letters, digits and the signs `-`, `.`, `%` and `#`
that a space, a `;` or a `:` ends. Whichever reader takes the word's first character (a number,
an identifier, a hash, a dimension, a lone sign), it reads a non-empty start of the word and
leaves the rest of the word, so the word comes out as tokens of word kinds that spell it, and
the tokenizer goes on at the stop. A plain value, words separated by single spaces, comes out as
a space token before each word and the word's tokens.

The characters involved are ASCII, so a fact about one character is checked once over the 128
ASCII codes (`isWordChar_ascii`).

## Main definitions

* `isWordChar`, `IsWordText`, `PlainValue`.
* `IsWordToken`, `ValueTokens` : the tokens of a word and of a plain value.

## Main statements

* `tokenAt_word` : the token read at the start of a word.
* `tokenizeFrom_word`, `tokenizeFrom_value` : the tokens of a word and of a plain value.
-/

namespace UtilityStyles.Css

/-- The characters of a plain word: ASCII letters and digits, `-`, `.`, `%` and `#`. -/
def isWordChar (c : Char) : Bool :=
  c.isAlphanum || c == '-' || c == '.' || c == '%' || c == '#'

/-- A text of word characters only. -/
def IsWordText (w : List Char) : Prop := ∀ c ∈ w, isWordChar c = true

instance : DecidablePred IsWordText := fun w =>
  decidable_of_iff (w.all isWordChar = true) (by simp [IsWordText])

/-- What may end a word in a declaration's text: nothing, a space, a `;` or a `:`. -/
def Stops (s : List Char) : Prop := ∀ c ∈ s.head?, c = ' ' ∨ c = ';' ∨ c = ':'

/-- A text made of a word and then `s`. -/
def OnWord (s r : List Char) : Prop := ∃ w, IsWordText w ∧ r = w ++ s

theorem toNat_lt_of_isWordChar {c : Char} (h : isWordChar c = true) : c.toNat < 128 := by
  simp only [isWordChar, Char.isAlphanum, Char.isAlpha, Char.isUpper, Char.isLower, Char.isDigit,
    Bool.or_eq_true, Bool.and_eq_true, decide_eq_true_eq, beq_iff_eq, UInt32.le_iff_toNat_le] at h
  -- the letters and digits are below 128 by their codes, the four signs by computation
  rcases h with (((((h | h) | h) | rfl) | rfl) | rfl) | rfl
  · exact Nat.lt_of_le_of_lt h.2 (by decide)
  · exact Nat.lt_of_le_of_lt h.2 (by decide)
  · exact Nat.lt_of_le_of_lt h.2 (by decide)
  all_goals decide

/-- A property of every ASCII word character holds of every word character. -/
theorem isWordChar_ascii {P : Char → Prop}
    (hP : ∀ n < 128, isWordChar (Char.ofNat n) = true → P (Char.ofNat n)) {c : Char}
    (hc : isWordChar c = true) : P c := by
  have h := hP c.toNat (toNat_lt_of_isWordChar hc) (by rwa [Char.ofNat_toNat])
  rwa [Char.ofNat_toNat] at h

theorem isBlank_of_isWordChar {c : Char} (hc : isWordChar c = true) : isBlank c = false :=
  isWordChar_ascii (P := fun c => isBlank c = false) (by decide +kernel) hc

theorem IsWordText.cons {c : Char} {w : List Char} (h : IsWordText (c :: w)) :
    isWordChar c = true ∧ IsWordText w :=
  ⟨h c List.mem_cons_self, fun d hd => h d (List.mem_cons_of_mem _ hd)⟩

theorem IsWordText.append {w w' : List Char} (h : IsWordText (w ++ w')) :
    IsWordText w ∧ IsWordText w' :=
  ⟨fun c hc => h c (List.mem_append_left _ hc), fun c hc => h c (List.mem_append_right _ hc)⟩

theorem Stops.head {s : List Char} (hs : Stops s) {p : Char → Bool} (h₁ : p ' ' = false)
    (h₂ : p ';' = false) (h₃ : p ':' = false) : ∀ c ∈ s.head?, p c = false := by
  intro c hc
  rcases hs c hc with rfl | rfl | rfl <;> assumption

theorem takeWhile_append_of_head {p : Char → Bool} {w s : List Char}
    (hs : ∀ c ∈ s.head?, p c = false) : (w ++ s).takeWhile p = w.takeWhile p := by
  induction w with
  | nil =>
    cases s with
    | nil => rfl
    | cons c r => simp [hs c (by simp)]
  | cons c w ih => cases hc : p c <;> simp [hc, ih]

theorem dropWhile_append_of_head {p : Char → Bool} {w s : List Char}
    (hs : ∀ c ∈ s.head?, p c = false) : (w ++ s).dropWhile p = w.dropWhile p ++ s := by
  induction w with
  | nil =>
    cases s with
    | nil => rfl
    | cons c r => simp [hs c (by simp)]
  | cons c w ih => cases hc : p c <;> simp [hc, ih]

theorem drop_length_takeWhile {p : Char → Bool} (l : List Char) :
    l.drop (l.takeWhile p).length = l.dropWhile p := by
  induction l with
  | nil => rfl
  | cons c l ih => cases hc : p c <;> simp [hc, ih]

theorem readNameRest_word {w s : List Char} (hw : IsWordText w) (hs : Stops s) {fuel : Nat}
    (hf : w.length ≤ fuel) :
    readNameRest fuel (w ++ s) = (w.takeWhile isIdentChar, w.dropWhile isIdentChar ++ s) := by
  induction w generalizing fuel with
  | nil =>
    cases fuel with
    | zero => rfl
    | succ f =>
      cases s with
      | nil => rfl
      | cons c r =>
        rcases hs c rfl with rfl | rfl | rfl <;> rfl
  | cons c w ih =>
    obtain ⟨hc, hw⟩ := hw.cons
    obtain ⟨f, rfl⟩ : ∃ f, fuel = f + 1 := ⟨fuel - 1, by simp at hf; omega⟩
    have hback : c ≠ '\\' := by rintro rfl; exact absurd hc (by decide)
    cases hid : isIdentChar c
    · simp [readNameRest, hid, hback]
    · simp [readNameRest, hid, ih hw (by simpa using hf)]

/-! ## Texts that start with a word -/

section OnWord

variable {s : List Char}

theorem OnWord.tail {c : Char} {r : List Char} (h : OnWord s (c :: r)) (hs : Stops s)
    (hc : c ≠ ' ' ∧ c ≠ ';' ∧ c ≠ ':') : isWordChar c = true ∧ OnWord s r := by
  obtain ⟨w, hw, hr⟩ := h
  cases w with
  | nil =>
    rw [List.nil_append] at hr
    subst hr
    rcases hs c rfl with rfl | rfl | rfl <;> simp at hc
  | cons d w =>
    obtain ⟨hd, hw'⟩ := hw.cons
    simp only [List.cons_append, List.cons.injEq] at hr
    obtain ⟨rfl, rfl⟩ := hr
    exact ⟨hd, w, hw', rfl⟩

theorem OnWord.dropWhile {r : List Char} (h : OnWord s r) (hs : Stops s) {p : Char → Bool}
    (h₁ : p ' ' = false) (h₂ : p ';' = false) (h₃ : p ':' = false) : OnWord s (r.dropWhile p) := by
  obtain ⟨w, hw, rfl⟩ := h
  refine ⟨w.dropWhile p, fun c hc => hw c ((List.dropWhile_suffix p).subset hc), ?_⟩
  exact dropWhile_append_of_head (hs.head h₁ h₂ h₃)

end OnWord

/-! ## Numbers -/

section Numbers

variable {s : List Char}

theorem splitSign_append (cs : List Char) : (splitSign cs).1 ++ (splitSign cs).2 = cs := by
  unfold splitSign
  split <;> rfl

theorem OnWord.splitSign {cs : List Char} (h : OnWord s cs) (hs : Stops s) :
    OnWord s (splitSign cs).2 := by
  unfold Css.splitSign
  split
  · exact (h.tail hs (by decide)).2
  · exact (h.tail hs (by decide)).2
  · exact h

theorem readFraction_eq_some {ds r1 f r3 : List Char} {b : Bool}
    (h : readFraction ds r1 = some (f, r3, b)) :
    f ++ r3 = r1 ∧ (f = [] → ds ≠ []) ∧ (OnWord s r1 → Stops s → OnWord s r3) := by
  unfold readFraction at h
  split at h
  · rename_i r2
    by_cases hfs : (r2.takeWhile Char.isDigit).isEmpty
    · by_cases hds : ds.isEmpty
      · simp [hfs, hds] at h
      · simp only [hfs, hds, if_true] at h
        obtain ⟨rfl, rfl, rfl⟩ := h
        exact ⟨rfl, fun _ h => hds (by simp [h]), fun h _ => h⟩
    · simp only [hfs, if_false, Option.some.injEq, Prod.mk.injEq, Bool.false_eq_true] at h
      obtain ⟨rfl, rfl, rfl⟩ := h
      refine ⟨?_, by simp, fun h hs => ?_⟩
      · rw [drop_length_takeWhile, List.cons_append, List.takeWhile_append_dropWhile]
      · rw [drop_length_takeWhile]
        exact (h.tail hs (by decide)).2.dropWhile hs rfl rfl rfl
  · by_cases hds : ds.isEmpty
    · simp [hds] at h
    · simp only [hds, if_false, Option.some.injEq, Prod.mk.injEq, Bool.false_eq_true] at h
      obtain ⟨rfl, rfl, rfl⟩ := h
      exact ⟨rfl, fun _ h => hds (by simp [h]), fun h _ => h⟩

theorem readExponent_spec (b : Bool) (r3 : List Char) :
    (readExponent b r3).1 ++ (readExponent b r3).2 = r3 ∧
      (OnWord s r3 → Stops s → OnWord s (readExponent b r3).2) := by
  unfold readExponent
  split
  · rename_i e r5
    by_cases he : (e == 'e' || e == 'E') = true
    · have hsplit := splitSign_append r5
      rcases hsp : Css.splitSign r5 with ⟨esign, r6⟩
      rw [hsp] at hsplit
      by_cases heds : (r6.takeWhile Char.isDigit).isEmpty
      · simp only [he, heds, if_true]
        exact ⟨rfl, fun h _ => h⟩
      · simp only [he, heds, if_true, if_false, Bool.false_eq_true]
        refine ⟨?_, fun h hs => ?_⟩
        · rw [drop_length_takeWhile]
          simpa using hsplit
        · have hr5 := (h.tail hs (by simp at he; rcases he with rfl | rfl <;> decide)).2
          have hr6 : OnWord s r6 := by simpa [hsp] using hr5.splitSign hs
          rw [drop_length_takeWhile]
          exact hr6.dropWhile hs rfl rfl rfl
    · simp only [he, if_false, Bool.false_eq_true]
      exact ⟨rfl, fun h _ => h⟩
  · exact ⟨rfl, fun h _ => h⟩

/-- A number read at the start of a word text is a non-empty start of it, and what is left
still starts with a word. -/
theorem readNumber_word {cs t r : List Char} (hcs : OnWord s cs) (hs : Stops s)
    (h : readNumber cs = some (t, r)) : t ++ r = cs ∧ OnWord s r ∧ t ≠ [] := by
  unfold readNumber at h
  have hsplit := splitSign_append cs
  have hbody := hcs.splitSign hs
  rcases hsp : splitSign cs with ⟨sign, body⟩
  rw [hsp] at hsplit hbody
  simp only [hsp] at h
  cases hf : readFraction (body.takeWhile Char.isDigit) (body.dropWhile Char.isDigit) with
  | none => simp [hf] at h
  | some fr =>
    obtain ⟨f, r3, b⟩ := fr
    obtain ⟨hfr, hne, hr3⟩ := readFraction_eq_some (s := s) hf
    obtain ⟨her, hr4⟩ := readExponent_spec (s := s) b r3
    simp only [hf, Option.some.injEq, Prod.mk.injEq] at h
    obtain ⟨rfl, rfl⟩ := h
    refine ⟨?_, hr4 (hr3 (hbody.dropWhile hs rfl rfl rfl) hs) hs, ?_⟩
    · rw [List.append_assoc, List.append_assoc, List.append_assoc, her, hfr,
        List.takeWhile_append_dropWhile, hsplit]
    · intro hnil
      simp only [List.append_eq_nil_iff] at hnil
      exact hne hnil.1.2 hnil.1.1.2

end Numbers

/-! ## Readers at the start of a word -/

/-- A reader's text is the start `t` of the word `w`, and it leaves the rest of `w` before `s`. -/
def Within (w s t r : List Char) : Prop := ∃ w', r = w' ++ s ∧ t ++ w' = w

/-- The kinds of token a plain word is read as. -/
def TokenKind.isWordKind : TokenKind → Bool
  | .ident | .number | .percentage | .dimension | .hash | .delim | .customPropertyName => true
  | _ => false

/-- What a reader may return at the start of `w ++ s`: a token of a word kind with a non-empty
text within `w`. -/
def Reads (w s : List Char) (o : Option (TokenKind × List Char × List Char)) : Prop :=
  ∀ k t r, o = some (k, t, r) → k.isWordKind ∧ t ≠ [] ∧ Within w s t r

section Readers

variable {w s : List Char}

theorem Stops.head_ne {c : Char} {r : List Char} (hs : Stops s) (h : s = c :: r) :
    c = ' ' ∨ c = ';' ∨ c = ':' :=
  hs c (by simp [h])

theorem isPrefix_word {p : List Char} (h : p <+: w ++ s) (hs : Stops s)
    (hp : ∀ c ∈ p, c ≠ ' ' ∧ c ≠ ';' ∧ c ≠ ':') : p <+: w := by
  induction p generalizing w with
  | nil => exact List.nil_prefix
  | cons c p ih =>
    obtain ⟨u, hu⟩ := h
    cases w with
    | nil =>
      rcases hs.head_ne hu.symm with rfl | rfl | rfl <;> simp at hp
    | cons d w =>
      simp only [List.cons_append, List.cons.injEq] at hu
      obtain ⟨rfl, hu⟩ := hu
      have hw : p <+: w := ih ⟨u, hu⟩ fun x hx => hp x (List.mem_cons_of_mem _ hx)
      exact List.prefix_cons_inj c |>.2 hw

theorem Within.of_onWord {t r : List Char} (h : t ++ r = w ++ s) (hr : OnWord s r) :
    Within w s t r := by
  obtain ⟨w', _, rfl⟩ := hr
  exact ⟨w', rfl, List.append_cancel_right (by simpa using h)⟩

theorem Within.onWord {t r : List Char} (hw : IsWordText w) (h : Within w s t r) :
    OnWord s r := by
  obtain ⟨w', rfl, hw'⟩ := h
  exact ⟨w', fun c hc => hw c (hw' ▸ List.mem_append_right _ hc), rfl⟩

theorem Within.trans {w' t u r : List Char} (h : Within w s t (w' ++ s)) (h' : Within w' s u r) :
    Within w s (t ++ u) r := by
  obtain ⟨w₁, hw₁, rfl⟩ := h
  obtain ⟨w₂, rfl, rfl⟩ := h'
  exact ⟨w₂, rfl, by rw [List.append_assoc, List.append_cancel_right hw₁.symm]⟩

theorem readName_word (hw : IsWordText w) (hs : Stops s) :
    readName (w ++ s) = (w.takeWhile isIdentChar, w.dropWhile isIdentChar ++ s) :=
  readNameRest_word hw hs (by simp)

theorem readIdent_word (hw : IsWordText w) (hs : Stops s) {t r : List Char}
    (h : readIdent (w ++ s) = some (t, r)) : t ≠ [] ∧ Within w s t r := by
  unfold readIdent at h
  split at h
  rename_i dash body hsplit
  -- a dash is read only where the word starts with one
  obtain ⟨w₁, rfl, hw₁, hdash⟩ : ∃ w₁, body = w₁ ++ s ∧ IsWordText w₁ ∧ dash ++ w₁ = w := by
    split at hsplit
    · rename_i r hr
      obtain ⟨rfl, rfl⟩ := Prod.mk.inj hsplit
      cases w with
      | nil => rcases hs.head_ne (by simpa using hr) with h | h | h <;> cases h
      | cons c w =>
        simp only [List.cons_append, List.cons.injEq] at hr
        obtain ⟨rfl, rfl⟩ := hr
        exact ⟨w, rfl, hw.cons.2, rfl⟩
    · obtain ⟨rfl, rfl⟩ := Prod.mk.inj hsplit
      exact ⟨w, rfl, hw, rfl⟩
  cases w₁ with
  | nil =>
    cases s with
    | nil => simp at h
    | cons c r =>
      rcases hs c rfl with rfl | rfl | rfl <;> simp [show isIdentStart ' ' = false by decide,
        show isIdentStart ';' = false by decide, show isIdentStart ':' = false by decide] at h
  | cons c w₂ =>
    obtain ⟨hc, hw₂⟩ := hw₁.cons
    have hback : c ≠ '\\' := by rintro rfl; exact absurd hc (by decide)
    simp only [List.cons_append] at h
    by_cases hstart : isIdentStart c = true
    · simp only [hstart, if_true, readName_word hw₂ hs, Option.some.injEq, Prod.mk.injEq] at h
      obtain ⟨rfl, rfl⟩ := h
      refine ⟨by simp, w₂.dropWhile isIdentChar, rfl, ?_⟩
      rw [← hdash]
      simp
    · simp [hstart, hback] at h

theorem Within.isWordText {t r : List Char} (hw : IsWordText w) (h : Within w s t r) :
    ∃ w', r = w' ++ s ∧ t ++ w' = w ∧ IsWordText w' := by
  obtain ⟨w', rfl, hw'⟩ := h
  exact ⟨w', rfl, hw', (hw'.symm ▸ hw).append.2⟩

theorem reads_readNumeric (hw : IsWordText w) (hs : Stops s) : Reads w s (readNumeric (w ++ s)) := by
  intro k t r h
  unfold readNumeric at h
  cases hn : readNumber (w ++ s) with
  | none => simp [hn] at h
  | some nr =>
    obtain ⟨n, rest⟩ := nr
    obtain ⟨hpre, hrest, hne⟩ := readNumber_word ⟨w, hw, rfl⟩ hs hn
    obtain ⟨w', rfl, hnw, hw'⟩ := (Within.of_onWord hpre hrest).isWordText hw
    simp only [hn] at h
    split at h
    · -- a percentage
      rename_i r' hr'
      simp only [Option.some.injEq, Prod.mk.injEq] at h
      obtain ⟨rfl, rfl, rfl⟩ := h
      cases w' with
      | nil => rcases hs.head_ne (by simpa using hr') with h | h | h <;> cases h
      | cons c w'' =>
        simp only [List.cons_append, List.cons.injEq] at hr'
        obtain ⟨rfl, rfl⟩ := hr'
        exact ⟨rfl, by simp, w'', rfl, by rw [← hnw]; simp⟩
    · split at h
      · -- a dimension: the number and a unit
        rename_i u r₂ hu
        simp only [Option.some.injEq, Prod.mk.injEq] at h
        obtain ⟨rfl, rfl, rfl⟩ := h
        obtain ⟨-, hwu⟩ := readIdent_word hw' hs hu
        exact ⟨rfl, by simp [hne], Within.trans ⟨w', rfl, hnw⟩ hwu⟩
      · simp only [Option.some.injEq, Prod.mk.injEq] at h
        obtain ⟨rfl, rfl, rfl⟩ := h
        exact ⟨rfl, hne, w', rfl, hnw⟩

theorem reads_readIdentLike (hw : IsWordText w) (hs : Stops s) :
    Reads w s (readIdentLike (w ++ s)) := by
  intro k t r h
  unfold readIdentLike at h
  cases hi : readIdent (w ++ s) with
  | none => simp [hi] at h
  | some nr =>
    obtain ⟨name, rest⟩ := nr
    obtain ⟨hne, hwi⟩ := readIdent_word hw hs hi
    obtain ⟨w', rfl, hnw, hw'⟩ := hwi.isWordText hw
    simp only [hi] at h
    split at h
    · -- no word character and no stop is an opening bracket
      rename_i r' hr'
      cases w' with
      | nil => rcases hs.head_ne (by simpa using hr') with h | h | h <;> cases h
      | cons c w'' =>
        simp only [List.cons_append, List.cons.injEq] at hr'
        obtain ⟨rfl, -⟩ := hr'
        exact absurd hw'.cons.1 (by decide)
    · simp only [Option.some.injEq, Prod.mk.injEq] at h
      obtain ⟨rfl, rfl, rfl⟩ := h
      exact ⟨rfl, hne, w', rfl, hnw⟩

theorem reads_hash (hw : IsWordText w) (hs : Stops s) :
    Reads w s (kinded .hash readHash (w ++ s)) := by
  intro k t r h
  simp only [kinded, Option.map_eq_some_iff, Prod.exists] at h
  obtain ⟨t', r', hh, hk⟩ := h
  simp only [Prod.mk.injEq] at hk
  obtain ⟨rfl, rfl, rfl⟩ := hk
  cases w with
  | nil =>
    cases s with
    | nil => simp [readHash] at hh
    | cons c r => rcases hs c rfl with rfl | rfl | rfl <;> simp [readHash] at hh
  | cons c w =>
    obtain ⟨-, hw₀⟩ := hw.cons
    by_cases hc : c = '#'
    · subst hc
      simp only [List.cons_append, readHash] at hh
      rw [readName_word hw₀ hs] at hh
      split at hh
      · simp at hh
      · rename_i name rest _ hname
        simp only [Prod.mk.injEq] at hname
        obtain ⟨rfl, rfl⟩ := hname
        simp only [Option.some.injEq, Prod.mk.injEq] at hh
        obtain ⟨rfl, rfl⟩ := hh
        exact ⟨rfl, by simp, w.dropWhile isIdentChar, rfl, by simp⟩
    · simp [readHash, hc] at hh

theorem not_isPrefix_word {p : List Char} (hs : Stops s) (hw : IsWordText w) {c : Char}
    (hcp : c ∈ p) (hc : isWordChar c = false) (hp : ∀ c ∈ p, c ≠ ' ' ∧ c ≠ ';' ∧ c ≠ ':') :
    ¬ p <+: w ++ s := by
  intro h
  simp [hw c ((isPrefix_word h hs hp).subset hcp)] at hc

/-- No word starts a unicode range. -/
theorem readUnicodeRange_word (hw : IsWordText w) (hs : Stops s) :
    readUnicodeRange (w ++ s) = none := by
  cases hh : readUnicodeRange (w ++ s) with
  | none => rfl
  | some x =>
    unfold readUnicodeRange at hh
    split at hh
    · -- a unicode range starts with `u` or `U` and a plus, which no word holds
      rename_i u r₀ hur
      by_cases hu : (u != 'u' && u != 'U') = true
      · simp [hu] at hh
      · have hu' : u = 'u' ∨ u = 'U' :=
          Decidable.or_iff_not_imp_left.2 (by simpa [bne_iff_ne] using hu)
        exact absurd ⟨r₀, hur.symm⟩ (not_isPrefix_word (p := [u, '+']) hs hw (c := '+') (by simp)
          (by decide) (by rcases hu' with rfl | rfl <;> simp))
    · simp at hh

theorem reads_unicodeRange (hw : IsWordText w) (hs : Stops s) :
    Reads w s (kinded .unicodeRange readUnicodeRange (w ++ s)) := by
  intro k t r h
  simp [kinded, readUnicodeRange_word hw hs] at h

theorem reads_cdc (hw : IsWordText w) (hs : Stops s) : Reads w s (kinded .cdc readCdc (w ++ s)) := by
  intro k t r h
  simp only [kinded, Option.map_eq_some_iff] at h
  obtain ⟨⟨t', r'⟩, hh, -⟩ := h
  unfold readCdc at hh
  split at hh
  · -- the closer holds a `>`, which no word holds
    rename_i hp
    exact absurd (List.isPrefixOf_iff_prefix.1 hp)
      (not_isPrefix_word hs hw (c := '>') (by simp) (by decide) (by simp))
  · simp at hh

theorem reads_customPropertyName (hw : IsWordText ('-' :: w)) (hs : Stops s) :
    Reads ('-' :: w) s (kinded .customPropertyName readCustomPropertyName ('-' :: w ++ s)) := by
  intro k t r h
  simp only [kinded, readCustomPropertyName, List.cons_append, Option.map_eq_some_iff,
    Option.map_map] at h
  obtain ⟨⟨t', r'⟩, hh, hk⟩ := h
  simp only [Function.comp, Prod.mk.injEq] at hk
  obtain ⟨rfl, rfl, rfl⟩ := hk
  obtain ⟨-, w', rfl, rfl⟩ := readIdent_word hw.cons.2 hs hh
  exact ⟨rfl, by simp, w', rfl, rfl⟩

theorem reads_firstOf {fs : List (List Char → Option (TokenKind × List Char × List Char))}
    (h : ∀ f ∈ fs, Reads w s (f (w ++ s))) : Reads w s (firstOf (w ++ s) fs) := by
  induction fs with
  | nil => intro k t r h; simp [firstOf] at h
  | cons f fs ih =>
    intro k t r hf
    simp only [firstOf] at hf
    cases hfo : f (w ++ s) with
    | none =>
      simp only [hfo, Option.orElse] at hf
      exact ih (fun g hg => h g (List.mem_cons_of_mem _ hg)) k t r hf
    | some x =>
      simp only [hfo, Option.orElse] at hf
      exact h f List.mem_cons_self k t r (hfo.trans hf)

/-- What the tokenizer reads at the start of a word: a token of a word kind whose text is a
non-empty start of the word. -/
def TokenRead (w s : List Char) (x : TokenKind × List Char × List Char) : Prop :=
  x.1.isWordKind ∧ x.2.1 ≠ [] ∧ Within w s x.2.1 x.2.2

theorem Reads.getD_delim {c : Char} {o : Option (TokenKind × List Char × List Char)}
    (h : Reads (c :: w) s o) : TokenRead (c :: w) s (o.getD (.delim, [c], w ++ s)) := by
  cases o with
  | none => exact ⟨rfl, by simp, w, rfl, rfl⟩
  | some x =>
    obtain ⟨k, t, r⟩ := x
    exact h k t r rfl

/-- The branches of the tokenizer that a word character can take. -/
theorem tokenAt_of_wordChar {c : Char} (hc : isWordChar c = true) (r : List Char) :
    tokenAt c r =
      if c == '#' then (kinded .hash readHash (c :: r)).getD (.delim, [c], r)
      else if c == '.' then (readNumeric (c :: r)).getD (.delim, [c], r)
      else if c == '-' then
        (firstOf (c :: r) [readNumeric, readIdentLike, kinded .cdc readCdc,
          kinded .customPropertyName readCustomPropertyName]).getD (.delim, [c], r)
      else if c == 'u' || c == 'U' then
        (firstOf (c :: r) [kinded .unicodeRange readUnicodeRange, readIdentLike]).getD (.delim, [c], r)
      else (firstOf (c :: r) [readNumeric, readIdentLike]).getD (.delim, [c], r) := by
  have hb : isBlank c = false := isBlank_of_isWordChar hc
  have hne : ∀ d, isWordChar d = false → (c == d) = false :=
    fun d hd => beq_false_of_ne fun h => by simp [h ▸ hc] at hd
  unfold tokenAt
  -- every branch for a character that no word holds is passed
  simp only [hb, hne ':' (by decide), hne ';' (by decide), hne ',' (by decide),
    hne '(' (by decide), hne ')' (by decide), hne '[' (by decide), hne ']' (by decide),
    hne '{' (by decide), hne '}' (by decide), hne '"' (by decide), hne (Char.ofNat 39) (by decide),
    hne '+' (by decide), hne '@' (by decide), hne '$' (by decide), hne '*' (by decide),
    hne '^' (by decide), hne '~' (by decide), hne '/' (by decide), hne '<' (by decide),
    hne '\\' (by decide), hne '|' (by decide), Bool.false_eq_true, Bool.or_false, if_false]

theorem tokenAt_word {c : Char} (hw : IsWordText (c :: w)) (hs : Stops s) :
    TokenRead (c :: w) s (tokenAt c (w ++ s)) := by
  rw [tokenAt_of_wordChar hw.cons.1]
  split
  · exact Reads.getD_delim (reads_hash hw hs)
  split
  · exact Reads.getD_delim (reads_readNumeric hw hs)
  split
  · -- a dash starts a number, an identifier, a comment closer or a custom property name
    rename_i hdash
    obtain rfl : c = '-' := beq_iff_eq.1 hdash
    refine Reads.getD_delim (reads_firstOf ?_)
    simp only [List.forall_mem_cons, List.not_mem_nil, false_imp_iff, implies_true, and_true]
    exact ⟨reads_readNumeric hw hs, reads_readIdentLike hw hs, reads_cdc hw hs,
      reads_customPropertyName hw hs⟩
  split
  · -- `u` or `U` starts an identifier: no unicode range is a word
    refine Reads.getD_delim (reads_firstOf ?_)
    simp only [List.forall_mem_cons, List.not_mem_nil, false_imp_iff, implies_true, and_true]
    exact ⟨reads_unicodeRange hw hs, reads_readIdentLike hw hs⟩
  · refine Reads.getD_delim (reads_firstOf ?_)
    simp only [List.forall_mem_cons, List.not_mem_nil, false_imp_iff, implies_true, and_true]
    exact ⟨reads_readNumeric hw hs, reads_readIdentLike hw hs⟩

end Readers

/-! ## Tokens of a word -/

/-- A token read from a plain word. -/
def IsWordToken (t : Token) : Prop :=
  t.kind.isWordKind ∧ t.text ≠ [] ∧ IsWordText t.text

/-- The tokens of a word text followed by a stop: word tokens that spell the word, then the
tokens of the rest. -/
theorem tokenizeFrom_word {w s : List Char} (hw : IsWordText w) (hs : Stops s) (fuel : Nat)
    (hf : (w ++ s).length < fuel) :
    ∃ ts fuel', s.length < fuel' ∧ tokenizeFrom fuel (w ++ s) = ts ++ tokenizeFrom fuel' s ∧
      ts.flatMap Token.text = w ∧ ∀ t ∈ ts, IsWordToken t := by
  -- induction on the length of the word: each token takes a non-empty start of it
  induction hn : w.length using Nat.strongRecOn generalizing w fuel with
  | _ n ih =>
    cases w with
    | nil => exact ⟨[], fuel, by simpa using hf, rfl, rfl, by simp⟩
    | cons c w =>
      obtain ⟨f, rfl⟩ : ∃ f, fuel = f + 1 := ⟨fuel - 1, by simp at hf; omega⟩
      rcases htok : tokenAt c (w ++ s) with ⟨k, t, r⟩
      have hread := tokenAt_word hw hs
      rw [htok] at hread
      obtain ⟨hk, hne, w', rfl, hw'⟩ := hread
      have hlen' := congrArg List.length hw'
      have ht : t.length ≠ 0 := by simpa using hne
      simp only [List.length_append, List.length_cons] at hlen' hn hf
      have hwt : IsWordText t ∧ IsWordText w' := (hw'.symm ▸ hw).append
      obtain ⟨ts, fuel', hfuel', htoks, hspell, hwords⟩ :=
        ih w'.length (by omega) hwt.2 f (by simp only [List.length_append]; omega) rfl
      refine ⟨⟨k, t⟩ :: ts, fuel', hfuel', ?_, ?_, ?_⟩
      · simp [tokenizeFrom, nextToken, htok, htoks]
      · simp [hspell, hw']
      · intro u hu
        rcases List.mem_cons.1 hu with rfl | hu
        · exact ⟨hk, hne, hwt.1⟩
        · exact hwords u hu

/-! ## Values -/

/-- A plain value: words of word characters, separated by single spaces. -/
inductive PlainValue : List Char → Prop
  | word {w : List Char} : w ≠ [] → IsWordText w → PlainValue w
  | cons {w v : List Char} : w ≠ [] → IsWordText w → PlainValue v → PlainValue (w ++ ' ' :: v)

/-- The token of one space. -/
def spaceToken : Token := ⟨.whitespace, [' ']⟩

/-- Non-empty word tokens spelling `w`. -/
def WordTokens (ts : List Token) (w : List Char) : Prop :=
  ts ≠ [] ∧ (∀ t ∈ ts, IsWordToken t) ∧ ts.flatMap Token.text = w

/-- The tokens of a value with the space before it: before each word a space, then the word's
tokens. -/
inductive ValueTokens : List Token → List Char → Prop
  | word {ts : List Token} {w : List Char} : WordTokens ts w → ValueTokens (spaceToken :: ts) w
  | cons {ts us : List Token} {w v : List Char} : WordTokens ts w → ValueTokens us v →
      ValueTokens (spaceToken :: ts ++ us) (w ++ ' ' :: v)

theorem tokenAt_space {w s : List Char} (hne : w ≠ []) (hw : IsWordText w) :
    tokenAt ' ' (w ++ s) = (.whitespace, [' '], w ++ s) := by
  obtain ⟨c, w, rfl⟩ := List.exists_cons_of_ne_nil hne
  have hb : isBlank c = false := isBlank_of_isWordChar hw.cons.1
  have hsp : isBlank ' ' = true := by decide
  simp [tokenAt, hsp, hb]

theorem tokenizeFrom_value {v s : List Char} (hv : PlainValue v) (hs : Stops s) (fuel : Nat)
    (hf : (' ' :: v ++ s).length < fuel) :
    ∃ ts fuel', s.length < fuel' ∧ tokenizeFrom fuel (' ' :: v ++ s) = ts ++ tokenizeFrom fuel' s ∧
      ValueTokens ts v := by
  induction hv generalizing fuel with
  | word hne hw =>
    obtain ⟨f, rfl⟩ : ∃ f, fuel = f + 1 := ⟨fuel - 1, by simp at hf; omega⟩
    obtain ⟨ts, fuel', hfuel', htoks, hspell, hwords⟩ :=
      tokenizeFrom_word hw hs f (by simp at hf ⊢; omega)
    refine ⟨spaceToken :: ts, fuel', hfuel', ?_, .word ⟨?_, hwords, hspell⟩⟩
    · simp [tokenizeFrom, nextToken, tokenAt_space hne hw, htoks, spaceToken]
    · rintro rfl
      exact hne (by simpa using hspell.symm)
  | @cons w v hne hw hv ih =>
    obtain ⟨f, rfl⟩ : ∃ f, fuel = f + 1 := ⟨fuel - 1, by simp at hf; omega⟩
    have hsp : Stops (' ' :: v ++ s) := fun c hc => by simp at hc; exact .inl hc.symm
    obtain ⟨ts, fuel', hfuel', htoks, hspell, hwords⟩ :=
      tokenizeFrom_word hw hsp f (by simp at hf ⊢; omega)
    obtain ⟨us, fuel'', hfuel'', hus, hvt⟩ := ih fuel' (by simpa using hfuel')
    refine ⟨spaceToken :: ts ++ us, fuel'', hfuel'', ?_, .cons ⟨?_, hwords, hspell⟩ hvt⟩
    · have hsplit : ' ' :: (w ++ ' ' :: v) ++ s = ' ' :: (w ++ (' ' :: v ++ s)) := by simp
      rw [hsplit]
      simp only [tokenizeFrom, nextToken, tokenAt_space hne hw]
      rw [htoks, hus]
      simp [spaceToken]
    · rintro rfl
      exact hne (by simpa using hspell.symm)

end UtilityStyles.Css
