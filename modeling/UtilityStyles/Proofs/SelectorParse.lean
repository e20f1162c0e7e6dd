import UtilityStyles.Proofs.SelectorGrammar
/-!
# Reading selectors from text

A selector is read from the CSS tokens of its text with the comments dropped
(`selectorTokens`). It reads as a selector exactly when those tokens are a selector list of the
grammar, and then as the chains the grammar gives (`Selector.parse_eq_ok_iff`).

Reading is not total: a quoted attribute value is cut out of its token between the first and the
last character, and a string token that is only its opening quote has no last character to cut
at. Reading such a value stops the program instead of refusing the selector. The lexer reads
such a token only from a quote that ends the text, so it is the last token; every other failure
refuses the selector with a message that names it.

## Main statements

* `Selector.parse_eq_ok_iff` : what reads as a selector, and as which.
* `tokenAt_lone_quote` : a string token that is only its quote ends the text.
* `selector_reading_exact_but_lone_quote_faults` : both, with the fault at the last token.
* `attribute_value_lone_quote_faults` : `[a="` stops the program.
-/

namespace UtilityStyles.Css

/-- The tokens a selector is read from: its CSS tokens with the comments dropped. -/
def selectorTokens (source : String) : List Token :=
  (tokenize source).filter (·.kind != .comment)

theorem Selector.parse_eq_ok_iff {source : String} {sel : Selector} :
    Selector.parse source = .ok sel ↔ ListToks (selectorTokens source) sel.chains := by
  rw [← readChains_eq_ok_iff]
  unfold Selector.parse selectorTokens
  dsimp only
  split
  · rename_i chs h
    rw [h]
    constructor
    · rintro ⟨⟩
      rfl
    · intro h'
      cases h'
      rfl
  · rename_i p h
    rw [h]
    simp

/-- A selector that does not read is refused with its own text, or stops the program at a lone
quote among its tokens. -/
theorem Selector.parse_error {source : String} {e : SelectorError}
    (h : Selector.parse source = .error e) :
    e.source = source ∧ (e.problem.isFault = true → ∃ t ∈ selectorTokens source, t.IsLoneQuote) := by
  unfold Selector.parse at h
  dsimp only at h
  split at h
  · cases h
  · rename_i p hp
    cases h
    exact ⟨rfl, readChains_fault hp⟩

/-! ## Where the lexer reads a lone quote -/

section LoneQuote

/-- A reader of the lexer whose tokens are never strings. -/
def NoStringReader (f : List Char → Option (TokenKind × List Char × List Char)) : Prop :=
  ∀ cs x, f cs = some x → x.1 ≠ .string

theorem noStringReader_kinded {k : TokenKind} (hk : k ≠ .string)
    (f : List Char → Option (List Char × List Char)) : NoStringReader (kinded k f) := by
  intro cs x h
  simp only [kinded, Option.map_eq_some_iff] at h
  obtain ⟨_, _, rfl⟩ := h
  exact hk

theorem noStringReader_readNumeric : NoStringReader readNumeric := by
  intro cs x h
  unfold readNumeric at h
  split at h
  · cases h
  · split at h
    · cases h
      simp
    · split at h <;> cases h <;> simp

theorem readUrl_ne_string (head cs : List Char) : (readUrl head cs).1 ≠ .string := by
  unfold readUrl badUrl
  dsimp only
  split
  · simp
  · split
    · simp
    · split <;> simp

theorem noStringReader_readIdentLike : NoStringReader readIdentLike := by
  intro cs x h
  unfold readIdentLike at h
  split at h
  · cases h
  · split at h
    · split at h
      · cases h
        exact readUrl_ne_string _ _
      · cases h
        simp
    · cases h
      simp

theorem noStringReader_readMatch : NoStringReader readMatch := by
  intro cs x h
  unfold readMatch at h
  split at h
  · split_ifs at h <;> cases h <;> simp
  · cases h

theorem noStringReader_firstOf {fs : List (List Char → Option (TokenKind × List Char × List Char))}
    (h : fs.Forall NoStringReader) : NoStringReader fun cs => firstOf cs fs := by
  intro cs x hx
  induction fs with
  | nil => simp [firstOf] at hx
  | cons f fs ih =>
    rw [List.forall_cons] at h
    simp only [firstOf] at hx
    cases hf : f cs with
    | none =>
      rw [hf] at hx
      exact ih h.2 hx
    | some y =>
      rw [hf] at hx
      cases hx
      exact h.1 cs x hf

/-- A reader that reads no string, or a delimiter in its place, reads no string. -/
theorem NoStringReader.getD {f : List Char → Option (TokenKind × List Char × List Char)}
    (hf : NoStringReader f) (cs : List Char) (d : Char) (r : List Char) :
    ((f cs).getD (.delim, [d], r)).1 ≠ .string := by
  cases h : f cs with
  | none => simp
  | some x => exact hf cs x h

theorem noStringReader_dash : NoStringReader fun cs => firstOf cs [readNumeric, readIdentLike,
    kinded .cdc readCdc, kinded .customPropertyName readCustomPropertyName] :=
  noStringReader_firstOf ⟨noStringReader_readNumeric, noStringReader_readIdentLike,
    noStringReader_kinded (by decide) _, noStringReader_kinded (by decide) _⟩

theorem noStringReader_unicode : NoStringReader fun cs =>
    firstOf cs [kinded .unicodeRange readUnicodeRange, readIdentLike] :=
  noStringReader_firstOf ⟨noStringReader_kinded (by decide) _, noStringReader_readIdentLike⟩

theorem noStringReader_bar : NoStringReader fun cs => firstOf cs [readMatch,
    kinded .column fun x => if "||".toList.isPrefixOf x then some ("||".toList, x.drop 2) else none] :=
  noStringReader_firstOf ⟨noStringReader_readMatch, noStringReader_kinded (by decide) _⟩

theorem noStringReader_word : NoStringReader fun cs => firstOf cs [readNumeric, readIdentLike] :=
  noStringReader_firstOf ⟨noStringReader_readNumeric, noStringReader_readIdentLike⟩

theorem ite_fst_ne {α β : Type} {p : Prop} [Decidable p] {x y : α × β} {k : α}
    (hx : p → x.1 ≠ k) (hy : y.1 ≠ k) : (if p then x else y).1 ≠ k := by
  split
  · exact hx ‹p›
  · exact hy

/-- Away from a quote the lexer reads no string: each of its other branches reads a token of a
fixed kind, or one of its readers, none of which reads a string, or a delimiter. -/
theorem tokenAt_kind_ne_string {c : Char} {r : List Char}
    (hq : (c == '"' || c == Char.ofNat 39) = false) : (tokenAt c r).1 ≠ .string := by
  have hkinded : ∀ k f, k ≠ .string → ((kinded k f (c :: r)).getD (.delim, [c], r)).1 ≠ .string :=
    fun k f hk => (noStringReader_kinded hk f).getD (c :: r) c r
  have hnum := noStringReader_readNumeric.getD (c :: r) c r
  have hdash := noStringReader_dash.getD (c :: r) c r
  have hmatch := NoStringReader.getD noStringReader_readMatch (c :: r) c r
  have hident := noStringReader_readIdentLike.getD (c :: r) c r
  have hunicode := noStringReader_unicode.getD (c :: r) c r
  have hbar := noStringReader_bar.getD (c :: r) c r
  have hword := noStringReader_word.getD (c :: r) c r
  unfold tokenAt
  dsimp only
  -- one goal per branch of the lexer, the quote's excluded by `hq`
  repeat' apply ite_fst_ne
  all_goals intro hp
  all_goals simp only [hq, hkinded, hnum, hdash, hmatch, hident, hunicode, hbar, hword, ne_eq,
    reduceCtorEq, Bool.false_eq_true, not_false_eq_true] at hp ⊢
  -- a comment or a delimiter at `/`, a comment opener or a delimiter at `<`
  all_goals split <;> simp only [reduceCtorEq, not_false_eq_true]

theorem tokenAt_of_quote {c : Char} (hq : (c == '"' || c == Char.ofNat 39) = true) (r : List Char) :
    tokenAt c r = readString (c :: r) := by
  simp only [Bool.or_eq_true, beq_iff_eq] at hq
  rcases hq with rfl | rfl <;> rfl

theorem readEscape_ne_nil {cs e r : List Char} (h : readEscape cs = some (e, r)) : e ≠ [] := by
  unfold readEscape at h
  split at h
  · split at h
    · cases h
    · split at h
      · dsimp only at h
        split at h
        · split at h <;> cases h <;> simp
        · cases h
          simp
      · cases h
        simp
  · cases h

/-- A string token read from a quote with more text after it holds more than the quote. -/
theorem readStringRest_ne_nil (q x : Char) (f : Nat) (r : List Char) :
    (readStringRest q (f + 1) (x :: r)).2.1 ≠ [] := by
  unfold readStringRest
  split
  · simp
  · split
    · simp
    · split
      · split
        · rename_i e r' he
          simp [readEscape_ne_nil he]
        · simp
      · simp

/-- The lexer reads a string token that is only its opening quote from a quote that ends the
text, and nothing is left to read after it. -/
theorem tokenAt_lone_quote {c : Char} {r : List Char} (h : (tokenAt c r).1 = .string)
    (hlen : (tokenAt c r).2.1.length < 2) : r = [] ∧ (tokenAt c r).2.2 = [] := by
  cases hq : (c == '"' || c == Char.ofNat 39)
  · exact absurd h (tokenAt_kind_ne_string hq)
  · rw [tokenAt_of_quote hq] at hlen ⊢
    cases r with
    | nil => exact ⟨rfl, rfl⟩
    | cons x r =>
      -- the text read after the quote is not empty, so the token holds more than the quote
      have hne := readStringRest_ne_nil c x (x :: r).length r
      rcases hrs : readStringRest c ((x :: r).length + 1) (x :: r) with ⟨k, a, b⟩
      rw [hrs] at hne
      simp only [readString, hrs] at hlen
      cases a with
      | nil => exact absurd rfl hne
      | cons y a =>
        simp only [List.length_cons] at hlen
        omega

/-- A lone quote is the last token the lexer reads. -/
theorem tokenizeFrom_lone_quote :
    ∀ {fuel : Nat} {cs : List Char} {pre post : List Token} {t : Token},
      tokenizeFrom fuel cs = pre ++ t :: post → t.IsLoneQuote → post = []
  | 0, _, pre, _, _, h, _ => by cases pre <;> cases h
  | f + 1, [], pre, _, _, h, _ => by cases pre <;> cases h
  | f + 1, c :: r, pre, post, t, h, ht => by
    simp only [tokenizeFrom, nextToken] at h
    cases pre with
    | nil =>
      obtain ⟨rfl, rfl⟩ := List.cons.inj h
      obtain ⟨-, hrest⟩ := tokenAt_lone_quote ht.1 ht.2
      rw [hrest]
      cases f <;> rfl
    | cons u pre => exact tokenizeFrom_lone_quote (List.cons.inj h).2 ht

/-- A lone quote among the tokens a selector is read from is the last of them. -/
theorem selectorTokens_lone_quote {source : String} {t : Token} (ht : t ∈ selectorTokens source)
    (hq : t.IsLoneQuote) : (selectorTokens source).getLast? = some t := by
  obtain ⟨pre, post, h⟩ := List.append_of_mem (List.mem_filter.1 ht).1
  have hpost : post = [] := tokenizeFrom_lone_quote h hq
  subst hpost
  have hk : (t.kind != .comment) = true := by simp [hq.1]
  simp [selectorTokens, h, List.filter_append, hk]

end LoneQuote

/-- A selector reads exactly when its tokens are a selector list of the grammar, as the chains
the grammar gives. Otherwise it is refused, naming its text, or, where a quoted attribute value
is only its opening quote at the very end of the text, reading it stops the program. -/
theorem selector_reading_exact_but_lone_quote_faults (source : String) :
    (∀ sel : Selector, Selector.parse source = .ok sel ↔ ListToks (selectorTokens source) sel.chains) ∧
    ∀ e : SelectorError, Selector.parse source = .error e →
      e.source = source ∧ (e.problem.isFault = true →
        ∃ t, (selectorTokens source).getLast? = some t ∧ t.IsLoneQuote) := by
  refine ⟨fun sel => Selector.parse_eq_ok_iff, fun e h => ?_⟩
  obtain ⟨hsource, hfault⟩ := Selector.parse_error h
  refine ⟨hsource, fun hp => ?_⟩
  obtain ⟨t, ht, hq⟩ := hfault hp
  exact ⟨t, selectorTokens_lone_quote ht hq, hq⟩

theorem selector_reading_exact_but_lone_quote_faults_child_and_quote :
    ListToks (selectorTokens "a > b")
        [.child (.single ⟨some "a", none, [], []⟩) ⟨some "b", none, [], []⟩] ∧
      ∃ t, (selectorTokens "[a=\"").getLast? = some t ∧ t.IsLoneQuote :=
  ⟨((selector_reading_exact_but_lone_quote_faults "a > b").1
      ⟨[.child (.single ⟨some "a", none, [], []⟩) ⟨some "b", none, [], []⟩]⟩).1 (by rfl),
    ((selector_reading_exact_but_lone_quote_faults "[a=\"").2 ⟨"[a=\"", .quoteOutOfRange⟩
      (by rfl)).2 rfl⟩

/-- `[a="`: the value of the attribute test is a string token that is only its opening quote,
and reading the selector stops the program instead of refusing it. -/
theorem attribute_value_lone_quote_faults :
    Selector.parse "[a=\"" = .error ⟨"[a=\"", .quoteOutOfRange⟩ := by
  rfl

end UtilityStyles.Css
