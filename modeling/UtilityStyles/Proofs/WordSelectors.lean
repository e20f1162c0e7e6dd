import UtilityStyles.Proofs.NestedDeclarations
import UtilityStyles.Proofs.StyleText
import Mathlib
/-!
# Selectors of plain words joined by blanks

Reading a plain word never looks past its end. Every reader the tokenizer tries at a word
character reads the same token from the word alone as from the word followed by a blank, a `;`
or a `:`, and leaves that stop untouched after the rest of the word (`tokenAt_append_stop`). So
the tokens of a word before a stop are the word's own tokens and then the stop's
(`tokenizeFrom_append_stop`), and words joined by single blanks read as the words' tokens with a
blank token between each two (`selectorTokens_intercalate_words`).

That is the condition under which keys of nested declarations join to nested chains. Keys that
are plain words, each read alone as one chain, join to a selector that picks exactly the elements
they scope, innermost key first (`Page.query_intercalate_words`).

## Main definitions

* `KeepsStop` : a reader that reads a word the same whatever stop follows it.

## Main statements

* `tokenAt_append_stop`, `tokenizeFrom_append_stop` : a word reads the same before a stop.
* `selectorTokens_intercalate_words` : the tokens of plain words joined by blanks.
* `Page.query_intercalate_words` : what plain words joined by blanks select.
-/

namespace UtilityStyles.Css

theorem stops_nil : Stops [] := fun c hc => by simp at hc

/-- A stop is nothing, or a text that starts with a blank, a `;` or a `:`. -/
@[elab_as_elim]
theorem Stops.elim {motive : List Char → Prop} {s : List Char} (hs : Stops s) (nil : motive [])
    (blank : ∀ r, motive (' ' :: r)) (semicolon : ∀ r, motive (';' :: r))
    (colon : ∀ r, motive (':' :: r)) : motive s := by
  cases s with
  | nil => exact nil
  | cons c r =>
    rcases hs c rfl with rfl | rfl | rfl
    exacts [blank r, semicolon r, colon r]

section Readers

variable {w s : List Char}

/-! ## Names and identifiers -/

theorem readName_append_stop (hw : IsWordText w) (hs : Stops s) :
    readName (w ++ s) = ((readName w).1, (readName w).2 ++ s) := by
  have h := readName_word hw stops_nil
  rw [List.append_nil, List.append_nil] at h
  rw [readName_word hw hs, h]

theorem readIdent_of_stops (hs : Stops s) : readIdent s = none :=
  hs.elim rfl (fun _ => rfl) (fun _ => rfl) (fun _ => rfl)

theorem readIdent_dash_of_stops (hs : Stops s) : readIdent ('-' :: s) = none :=
  hs.elim rfl (fun _ => rfl) (fun _ => rfl) (fun _ => rfl)

theorem readIdent_cons {c : Char} (hc : c ≠ '-') (hb : c ≠ '\\') (r : List Char) :
    readIdent (c :: r) =
      if isIdentStart c then some (c :: (readName r).1, (readName r).2) else none := by
  simp [readIdent, hc, hb]

theorem readIdent_dash {c : Char} (hb : c ≠ '\\') (r : List Char) :
    readIdent ('-' :: c :: r) =
      if isIdentStart c then some ('-' :: c :: (readName r).1, (readName r).2) else none := by
  simp [readIdent, hb]

/-- An identifier that starts at a word character: the character and the name after it. -/
theorem readIdent_start_append_stop {c : Char} (hw : IsWordText (c :: w)) (hs : Stops s)
    (f : List Char → List Char) :
    (if isIdentStart c then some (f (c :: (readName (w ++ s)).1), (readName (w ++ s)).2) else none) =
      (if isIdentStart c then some (f (c :: (readName w).1), (readName w).2) else none).map
        fun x => (x.1, x.2 ++ s) := by
  rw [readName_append_stop hw.cons.2 hs]
  split <;> rfl

theorem readIdent_append_stop (hw : IsWordText w) (hs : Stops s) :
    readIdent (w ++ s) = (readIdent w).map fun x => (x.1, x.2 ++ s) := by
  cases w with
  | nil => rw [List.nil_append, readIdent_of_stops hs, readIdent_of_stops stops_nil, Option.map_none]
  | cons c w =>
    have hb := ne_of_isWordChar hw.cons.1 (by decide : isWordChar '\\' = false)
    by_cases hd : c = '-'
    · subst hd
      -- a dash is part of the identifier only when a start character follows it
      cases w with
      | nil =>
        rw [List.singleton_append, readIdent_dash_of_stops hs, readIdent_dash_of_stops stops_nil]
        rfl
      | cons d w =>
        have hb' := ne_of_isWordChar hw.cons.2.cons.1 (by decide : isWordChar '\\' = false)
        rw [List.cons_append, List.cons_append, readIdent_dash hb', readIdent_dash hb']
        exact readIdent_start_append_stop hw.cons.2 hs (List.cons '-')
    · rw [List.cons_append, readIdent_cons hd hb, readIdent_cons hd hb]
      exact readIdent_start_append_stop hw hs id

theorem isWordText_of_readIdent {t rest : List Char} (hw : IsWordText w)
    (h : readIdent w = some (t, rest)) : IsWordText rest := by
  obtain ⟨-, w', hrest, hw'⟩ := readIdent_word (s := []) (w := w) hw stops_nil
    (by rw [List.append_nil]; exact h)
  rw [List.append_nil] at hrest
  subst hrest
  exact (hw'.symm ▸ hw).append.2

/-! ## Numbers

A number reads its sign, digits, fraction and exponent the same before any stop: none of these
parts starts with a blank, a `;` or a `:`. -/

theorem splitSign_cons_append (c : Char) (r s : List Char) :
    splitSign (c :: r ++ s) = ((splitSign (c :: r)).1, (splitSign (c :: r)).2 ++ s) := by
  by_cases hp : c = '+'
  · subst hp; rfl
  by_cases hm : c = '-'
  · subst hm; rfl
  simp [splitSign, hp, hm]

theorem splitSign_of_stops (hs : Stops s) : splitSign s = ([], s) :=
  hs.elim rfl (fun _ => rfl) (fun _ => rfl) (fun _ => rfl)

theorem splitSign_append_stop (hs : Stops s) :
    splitSign (w ++ s) = ((splitSign w).1, (splitSign w).2 ++ s) := by
  cases w with
  | nil => rw [List.nil_append, splitSign_of_stops hs]; rfl
  | cons c w => exact splitSign_cons_append c w s

theorem Stops.not_digit (hs : Stops s) : ∀ c ∈ s.head?, Char.isDigit c = false :=
  hs.head (by decide) (by decide) (by decide)

theorem readFraction_of_not_dot {ds r1 : List Char} (h : ∀ r2, r1 ≠ '.' :: r2) :
    readFraction ds r1 = if ds.isEmpty then none else some ([], r1, true) := by
  unfold readFraction
  split
  · exact absurd rfl (h _)
  · rfl

theorem readFraction_append_stop (ds : List Char) (hs : Stops s) :
    readFraction ds (w ++ s) = (readFraction ds w).map fun x => (x.1, x.2.1 ++ s, x.2.2) := by
  by_cases hdot : ∃ r2, w = '.' :: r2
  · obtain ⟨r2, rfl⟩ := hdot
    have htake := takeWhile_append_of_head (w := r2) hs.not_digit
    have hdrop : (r2 ++ s).drop (r2.takeWhile Char.isDigit).length =
        r2.drop (r2.takeWhile Char.isDigit).length ++ s :=
      List.drop_append_of_le_length (List.takeWhile_prefix _).length_le
    simp only [List.cons_append, readFraction, htake, hdrop]
    split <;> [split <;> rfl; rfl]
  · -- no fraction: the digits read so far are the whole number
    have hne : ∀ r2, w ++ s ≠ '.' :: r2 := by
      intro r2 h
      cases w with
      | nil =>
        rw [List.nil_append] at h
        subst h
        rcases hs '.' rfl with h' | h' | h' <;> exact absurd h' (by decide)
      | cons c w =>
        simp only [List.cons_append, List.cons.injEq] at h
        exact hdot ⟨w, by rw [h.1]⟩
    rw [readFraction_of_not_dot hne, readFraction_of_not_dot fun r2 h => hdot ⟨r2, h⟩]
    split <;> rfl

theorem readExponent_append_stop (b : Bool) (hs : Stops s) :
    readExponent b (w ++ s) = ((readExponent b w).1, (readExponent b w).2 ++ s) := by
  cases b with
  | false => rfl
  | true =>
    cases w with
    | nil => exact hs.elim rfl (fun _ => rfl) (fun _ => rfl) (fun _ => rfl)
    | cons e w =>
      by_cases he : (e == 'e' || e == 'E') = true
      · -- an exponent reads its sign and digits before the stop
        have htake := takeWhile_append_of_head (w := (splitSign w).2) hs.not_digit
        have hdrop : ((splitSign w).2 ++ s).drop ((splitSign w).2.takeWhile Char.isDigit).length =
            (splitSign w).2.drop ((splitSign w).2.takeWhile Char.isDigit).length ++ s :=
          List.drop_append_of_le_length (List.takeWhile_prefix _).length_le
        simp only [readExponent, List.cons_append, he, if_true, splitSign_append_stop hs, htake, hdrop]
        split <;> rfl
      · simp [readExponent, he]

theorem readNumber_append_stop (hs : Stops s) :
    readNumber (w ++ s) = (readNumber w).map fun x => (x.1, x.2 ++ s) := by
  have htake := takeWhile_append_of_head (w := (splitSign w).2) hs.not_digit
  have hdrop := dropWhile_append_of_head (w := (splitSign w).2) hs.not_digit
  simp only [readNumber, splitSign_append_stop hs, htake, hdrop, readFraction_append_stop _ hs]
  cases readFraction ((splitSign w).2.takeWhile Char.isDigit) ((splitSign w).2.dropWhile Char.isDigit) with
  | none => rfl
  | some x => simp [readExponent_append_stop _ hs]

theorem isWordText_of_readNumber {n rest : List Char} (hw : IsWordText w)
    (h : readNumber w = some (n, rest)) : IsWordText rest := by
  obtain ⟨-, ⟨w', hw', hrest⟩, -⟩ := readNumber_word (s := []) ⟨w, hw, (List.append_nil w).symm⟩
    stops_nil h
  rw [List.append_nil] at hrest
  exact hrest ▸ hw'

theorem readNumeric_append_stop (hw : IsWordText w) (hs : Stops s) :
    readNumeric (w ++ s) = (readNumeric w).map fun x => (x.1, x.2.1, x.2.2 ++ s) := by
  unfold readNumeric
  rw [readNumber_append_stop hs]
  cases hn : readNumber w with
  | none => rfl
  | some nr =>
    obtain ⟨n, rest⟩ := nr
    have hrest := isWordText_of_readNumber hw hn
    simp only [Option.map_some]
    cases rest with
    | nil => exact hs.elim rfl (fun _ => rfl) (fun _ => rfl) (fun _ => rfl)
    | cons c r =>
      by_cases hp : c = '%'
      · subst hp; rfl
      · -- what follows the number within the word is read as its unit
        simp only [List.cons_append, List.cons.injEq, hp, false_and, imp_self, implies_true]
        rw [← List.cons_append, readIdent_append_stop hrest hs]
        cases readIdent (c :: r) <;> rfl

/-! ## The other readers at a word character -/

theorem readIdentLike_append_stop (hw : IsWordText w) (hs : Stops s) :
    readIdentLike (w ++ s) = (readIdentLike w).map fun x => (x.1, x.2.1, x.2.2 ++ s) := by
  unfold readIdentLike
  rw [readIdent_append_stop hw hs]
  cases hi : readIdent w with
  | none => rfl
  | some nr =>
    obtain ⟨name, rest⟩ := nr
    have hrest := isWordText_of_readIdent hw hi
    simp only [Option.map_some]
    cases rest with
    | nil => exact hs.elim rfl (fun _ => rfl) (fun _ => rfl) (fun _ => rfl)
    | cons c r =>
      -- no word character opens a function's bracket
      have hp := ne_of_isWordChar hrest.cons.1 (by decide : isWordChar '(' = false)
      simp only [List.cons_append, List.cons.injEq, hp, false_and, imp_self, implies_true]
      rfl

theorem readHash_append_stop (hw : IsWordText w) (hs : Stops s) :
    readHash (w ++ s) = (readHash w).map fun x => (x.1, x.2 ++ s) := by
  cases w with
  | nil => exact hs.elim rfl (fun _ => rfl) (fun _ => rfl) (fun _ => rfl)
  | cons c w =>
    by_cases hc : c = '#'
    · subst hc
      simp only [List.cons_append, readHash]
      rw [readName_append_stop hw.cons.2 hs]
      rcases readName w with ⟨_ | ⟨d, a⟩, b⟩ <;> rfl
    · simp [readHash, hc]

theorem readCdc_of_word (hw : IsWordText w) (hs : Stops s) : readCdc (w ++ s) = none := by
  unfold readCdc
  split
  · -- the closer holds a `>`, which no word holds
    rename_i hp
    exact absurd (List.isPrefixOf_iff_prefix.1 hp)
      (not_isPrefix_word hs hw (c := '>') (by simp) (by decide) (by simp))
  · rfl

theorem readCustomPropertyName_append_stop (hw : IsWordText w) (hs : Stops s) :
    readCustomPropertyName (w ++ s) = (readCustomPropertyName w).map fun x => (x.1, x.2 ++ s) := by
  cases w with
  | nil => exact hs.elim rfl (fun _ => rfl) (fun _ => rfl) (fun _ => rfl)
  | cons c w =>
    by_cases hc : c = '-'
    · subst hc
      simp only [List.cons_append, readCustomPropertyName]
      rw [readIdent_append_stop hw.cons.2 hs]
      cases readIdent w <;> rfl
    · simp [readCustomPropertyName, hc]

end Readers

/-! ## The token at a word -/

/-- A reader that reads a word the same whether or not a stop follows it, and leaves the stop
after the rest of the word. -/
def KeepsStop (f : List Char → Option (TokenKind × List Char × List Char)) : Prop :=
  ∀ w s, IsWordText w → Stops s → f (w ++ s) = (f w).map fun x => (x.1, x.2.1, x.2.2 ++ s)

theorem keepsStop_kinded (k : TokenKind) {f : List Char → Option (List Char × List Char)}
    (hf : ∀ w s, IsWordText w → Stops s → f (w ++ s) = (f w).map fun x => (x.1, x.2 ++ s)) :
    KeepsStop (kinded k f) := by
  intro w s hw hs
  simp only [kinded, hf w s hw hs]
  cases f w <;> rfl

theorem keepsStop_of_none {f : List Char → Option (TokenKind × List Char × List Char)}
    (hf : ∀ w s, IsWordText w → Stops s → f (w ++ s) = none) : KeepsStop f := by
  intro w s hw hs
  have h := hf w [] hw stops_nil
  rw [List.append_nil] at h
  rw [hf w s hw hs, h, Option.map_none]

theorem keepsStop_firstOf {fs : List (List Char → Option (TokenKind × List Char × List Char))}
    (h : ∀ f ∈ fs, KeepsStop f) : KeepsStop fun cs => firstOf cs fs := by
  intro w s hw hs
  induction fs with
  | nil => rfl
  | cons f fs ih =>
    simp only [firstOf, h f List.mem_cons_self w s hw hs]
    cases f w with
    | none => exact ih fun g hg => h g (List.mem_cons_of_mem _ hg)
    | some x => rfl

section Token

variable {w s : List Char}

theorem KeepsStop.getD {f : List Char → Option (TokenKind × List Char × List Char)}
    (hf : KeepsStop f) {c : Char} (hw : IsWordText (c :: w)) (hs : Stops s) :
    (f (c :: (w ++ s))).getD (.delim, [c], w ++ s) =
      (((f (c :: w)).getD (.delim, [c], w)).1, ((f (c :: w)).getD (.delim, [c], w)).2.1,
        ((f (c :: w)).getD (.delim, [c], w)).2.2 ++ s) := by
  rw [← List.cons_append, hf _ _ hw hs]
  cases f (c :: w) <;> rfl

/-- The token read at the start of a word does not depend on the stop after the word, which is
left in the rest. -/
theorem tokenAt_append_stop {c : Char} (hw : IsWordText (c :: w)) (hs : Stops s) :
    tokenAt c (w ++ s) = ((tokenAt c w).1, (tokenAt c w).2.1, (tokenAt c w).2.2 ++ s) := by
  have hnum : KeepsStop readNumeric := fun _ _ => readNumeric_append_stop
  have hident : KeepsStop readIdentLike := fun _ _ => readIdentLike_append_stop
  -- no comment closer and no unicode range is a word
  have hcdc : KeepsStop (kinded .cdc readCdc) :=
    keepsStop_of_none fun _ _ hw hs => by simp [kinded, readCdc_of_word hw hs]
  have hrange : KeepsStop (kinded .unicodeRange readUnicodeRange) :=
    keepsStop_of_none fun _ _ hw hs => by simp [kinded, readUnicodeRange_word hw hs]
  have hcustom := keepsStop_kinded .customPropertyName fun _ _ => readCustomPropertyName_append_stop
  rw [tokenAt_of_wordChar hw.cons.1, tokenAt_of_wordChar hw.cons.1]
  split_ifs
  · exact (keepsStop_kinded .hash fun _ _ => readHash_append_stop).getD hw hs
  · exact hnum.getD hw hs
  · exact (keepsStop_firstOf (by simp [hnum, hident, hcdc, hcustom])).getD hw hs
  · exact (keepsStop_firstOf (by simp [hrange, hident])).getD hw hs
  · exact (keepsStop_firstOf (by simp [hnum, hident])).getD hw hs

/-- The tokens of a word followed by a stop are the word's own tokens and then the stop's: with
enough fuel, the tokenizer reads a word alone as it reads it before a stop. -/
theorem tokenizeFrom_append_stop (hw : IsWordText w) (hs : Stops s) {fuel g : Nat}
    (hf : (w ++ s).length < fuel) (hg : w.length < g) :
    ∃ fuel', s.length < fuel' ∧ tokenizeFrom fuel (w ++ s) = tokenizeFrom g w ++ tokenizeFrom fuel' s := by
  -- induction on the length of the word: each token takes a non-empty start of it
  induction hn : w.length using Nat.strongRecOn generalizing w fuel g with
  | _ n ih =>
    cases w with
    | nil => exact ⟨fuel, by simpa using hf, by rw [tokenizeFrom_nil, List.nil_append, List.nil_append]⟩
    | cons c w =>
      obtain ⟨f, rfl⟩ : ∃ f, fuel = f + 1 := ⟨fuel - 1, by simp at hf; omega⟩
      obtain ⟨g', rfl⟩ : ∃ g', g = g' + 1 := ⟨g - 1, by simp at hg; omega⟩
      have hstop := tokenAt_append_stop hw hs
      have hread := tokenAt_word hw stops_nil
      rw [List.append_nil] at hread
      rcases htok : tokenAt c w with ⟨k, t, r⟩
      rw [htok] at hstop hread
      obtain ⟨-, hne, w', hr, hw'⟩ := hread
      rw [List.append_nil] at hr
      subst hr
      have hlen := congrArg List.length hw'
      have ht : t.length ≠ 0 := by simpa using hne
      simp only [List.length_append, List.length_cons] at hlen hn hf hg
      have hfr : (r ++ s).length < f := by simp only [List.length_append]; omega
      have hgr : r.length < g' := by omega
      obtain ⟨fuel', hfuel', htoks⟩ := ih r.length (by omega) (hw'.symm ▸ hw).append.2 hfr hgr rfl
      refine ⟨fuel', hfuel', ?_⟩
      simp [tokenizeFrom, nextToken, hstop, htok, htoks]

end Token

/-! ## Words joined by blanks -/

theorem intercalate_cons_eq_append {α : Type} (sep v : List α) (vs : List (List α)) :
    ∃ x, sep.intercalate (v :: vs) = v ++ x := by
  cases vs with
  | nil => exact ⟨[], by simp⟩
  | cons u vs => exact ⟨_, by rw [List.intercalate_cons_cons, List.append_assoc]⟩

theorem filter_intercalate_singleton {α : Type} {p : α → Bool} {x : α} (hx : p x = true)
    (tss : List (List α)) : ([x].intercalate tss).filter p = [x].intercalate (tss.map (·.filter p)) := by
  induction tss with
  | nil => rfl
  | cons ts rest ih =>
    cases rest with
    | nil => simp
    | cons us rest =>
      rw [List.intercalate_cons_cons, List.filter_append, List.filter_append, ih]
      simp [hx, List.intercalate_cons_cons]

/-- Words joined by single blanks read as the words' tokens with a blank token between each
two. -/
theorem tokenizeFrom_intercalate_words {ws : List (List Char)} (hws : ∀ w ∈ ws, w ≠ [] ∧ IsWordText w)
    {fuel : Nat} (hf : ([' '].intercalate ws).length < fuel) :
    tokenizeFrom fuel ([' '].intercalate ws) =
      [spaceToken].intercalate (ws.map fun w => tokenizeFrom (w.length + 1) w) := by
  induction ws generalizing fuel with
  | nil => rw [List.intercalate_nil, List.map_nil, List.intercalate_nil, tokenizeFrom_nil]
  | cons w ws ih =>
    obtain ⟨-, hw⟩ := hws w List.mem_cons_self
    cases ws with
    | nil =>
      rw [List.intercalate_singleton] at hf ⊢
      obtain ⟨fuel', -, h⟩ := tokenizeFrom_append_stop (s := []) hw stops_nil
        (by rwa [List.append_nil]) (Nat.lt_succ_self _)
      rw [List.append_nil, tokenizeFrom_nil, List.append_nil] at h
      rw [h, List.map_singleton, List.intercalate_singleton]
    | cons v ws =>
      obtain ⟨hne, hv⟩ := hws v (List.mem_cons_of_mem _ List.mem_cons_self)
      obtain ⟨x, hx⟩ := intercalate_cons_eq_append [' '] v ws
      -- the blank after the word stops it, and is read as one blank token before the next word
      have hstop : Stops (' ' :: [' '].intercalate (v :: ws)) := fun c hc => .inl (by simpa using hc.symm)
      rw [List.intercalate_cons_cons, List.append_assoc, List.singleton_append] at hf ⊢
      obtain ⟨fuel', hfuel', h⟩ := tokenizeFrom_append_stop hw hstop hf (Nat.lt_succ_self _)
      obtain ⟨f, rfl⟩ : ∃ f, fuel' = f + 1 := ⟨fuel' - 1, by simp at hfuel'; omega⟩
      have hspace : tokenizeFrom (f + 1) (' ' :: [' '].intercalate (v :: ws)) =
          spaceToken :: tokenizeFrom f ([' '].intercalate (v :: ws)) := by
        simp only [tokenizeFrom, nextToken, hx, tokenAt_space hne hv]
        rfl
      rw [h, hspace, ih (fun u hu => hws u (List.mem_cons_of_mem _ hu)) (by simpa using hfuel')]
      simp only [List.map_cons, List.intercalate_cons_cons, List.append_assoc, List.singleton_append,
        Nat.succ_eq_add_one]

theorem tokenize_intercalate_words {keys : List String}
    (hk : ∀ k ∈ keys, k.toList ≠ [] ∧ IsWordText k.toList) :
    tokenize (" ".intercalate keys) = [spaceToken].intercalate (keys.map tokenize) := by
  have hws : ∀ w ∈ keys.map String.toList, w ≠ [] ∧ IsWordText w := by
    simpa using hk
  have hblank : " ".toList = [' '] := rfl
  rw [tokenize, ← String.length_toList, String.toList_intercalate, hblank,
    tokenizeFrom_intercalate_words hws (Nat.lt_succ_self _), List.map_map]
  rfl

/-- Keys of plain words joined by blanks: the selector's tokens are the keys' with a blank
between each two. -/
theorem selectorTokens_intercalate_words {keys : List String}
    (hk : ∀ k ∈ keys, k.toList ≠ [] ∧ IsWordText k.toList) :
    selectorTokens (" ".intercalate keys) = [spaceToken].intercalate (keys.map selectorTokens) := by
  rw [selectorTokens, tokenize_intercalate_words hk, filter_intercalate_singleton (by rfl), List.map_map]
  rfl

example : selectorTokens (" ".intercalate ["div", ".card"]) =
    [spaceToken].intercalate (["div", ".card"].map selectorTokens) := by
  rfl

/-- Keys of plain words that each read as one chain join to the chains each below the one
before. -/
theorem Selector.parse_intercalate_words {keys : List String} {ch : Chain} {chs : List Chain}
    (hk : ∀ k ∈ keys, k.toList ≠ [] ∧ IsWordText k.toList)
    (hparse : List.Forall₂ (fun key ch => Selector.parse key = .ok ⟨[ch]⟩) keys (ch :: chs)) :
    Selector.parse (" ".intercalate keys) = .ok ⟨[Chain.nest ch chs]⟩ :=
  Selector.parse_intercalate hparse (selectorTokens_intercalate_words hk)

end UtilityStyles.Css

namespace UtilityStyles

open Css (Chain Selector ScopedBy IsWordText)

/-- **Plain words joined by blanks.** Keys that are plain words, each read alone as one chain,
joined by blanks pick, in document order, exactly the elements the innermost key selects from an
element with an ancestor that the keys outside it select in the same way, out to the first key. -/
theorem Page.query_intercalate_words {p : Page} (hp : p.ParentsBefore) {keys : List String}
    {ch : Chain} {chs : List Chain} (hk : ∀ k ∈ keys, k.toList ≠ [] ∧ IsWordText k.toList)
    (hparse : List.Forall₂ (fun key ch => Selector.parse key = .ok ⟨[ch]⟩) keys (ch :: chs)) :
    ∃ els, p.query (" ".intercalate keys) = .ok els ∧ els.Pairwise (· < ·) ∧
      ∀ i, i ∈ els ↔ i < p.size ∧ ScopedBy p (ch :: chs).reverse i := by
  obtain ⟨hquery, hsorted, hmem⟩ :=
    Page.query_nest hp (Css.Selector.parse_intercalate_words hk hparse)
  exact ⟨_, hquery, hsorted, hmem⟩

end UtilityStyles
