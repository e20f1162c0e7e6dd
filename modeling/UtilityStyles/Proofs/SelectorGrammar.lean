import UtilityStyles.Css.Selector
import Mathlib
/-!
# The grammar of selectors

What the selector reader accepts, stated as a grammar over the tokens of the selector with its
comments dropped. Each rule relates the tokens it starts at to what it reads and to the tokens
left after it, so a rule may stop short: the rules that follow it say where it must stop.

* A selector list is chains separated by commas, each with blanks around it (`ListToks`).
* A chain is a compound selector and links: blanks, or `>` with blanks around it, and the next
  compound selector (`ChainToks`, `LinksToks`).
* A compound selector is a type or `*` and any number of conditions, or one condition or more
  (`CompoundToks`); a condition is `#id`, `.class` or an attribute test (`CondToks`).
* An attribute test is blanks, a name and blanks, then optionally `=`, blanks, a value and
  blanks, and `]` (`AttrToks`). A value is an identifier or a number, standing for its text, or
  a string, standing for what stands between its first and its last character (`ValueTok`).

Whitespace is a combinator between compound selectors and is passed over everywhere else.

## Main statements

* `readChains_eq_ok_iff` : the reader accepts exactly the selector lists of the grammar, and
  reads from them the chains, compound selectors and combinators that the grammar gives.
* `readChains_fault` : reading stops the program only at a string token that is only its
  opening quote.
-/

namespace UtilityStyles.Css

open UtilityStyles.Text (lowerText)

/-! ## The grammar -/

/-- `ts` starts with blank tokens, and `rest` follows them. -/
inductive Blanks : List Token → List Token → Prop
  | done (ts : List Token) : Blanks ts ts
  | blank {t : Token} {ts rest : List Token} : t.kind = .whitespace → Blanks ts rest →
      Blanks (t :: ts) rest

/-- The value an attribute is compared with, and the token that gives it: an identifier or a
number stands for its text, a string for what stands between its first and last character. -/
inductive ValueTok : Token → String → Prop
  | word {v : Token} : v.kind = .ident ∨ v.kind = .number → ValueTok v v.str
  | quoted {v : Token} {q q' : Char} {body : List Char} : v.kind = .string →
      v.text = q :: body ++ [q'] → ValueTok v (String.ofList body)

/-- An attribute test after its `[`, up to and including `]`: blanks, the name, blanks,
optionally `=`, blanks, the value and blanks, then `]`. -/
inductive AttrToks : List Token → AttrTest → List Token → Prop
  | present {ts r₁ rest : List Token} {n b : Token} : Blanks ts (n :: r₁) → n.kind = .ident →
      Blanks r₁ (b :: rest) → b.kind = .rightBracket → AttrToks ts ⟨n.str, none⟩ rest
  | valued {ts r₁ r₂ r₃ rest : List Token} {n e v b : Token} {x : String} :
      Blanks ts (n :: r₁) → n.kind = .ident → Blanks r₁ (e :: r₂) → e.isDelim '=' = true →
      Blanks r₂ (v :: r₃) → ValueTok v x → Blanks r₃ (b :: rest) → b.kind = .rightBracket →
      AttrToks ts ⟨n.str, some x⟩ rest

/-- One condition of a compound selector and what it makes of the selector read so far: `#id`
sets the id (escapes dropped; an empty one sets none), `.class` adds a class and `[…]` an
attribute test. -/
inductive CondToks : List Token → Compound → Compound → List Token → Prop
  | id {t : Token} {rest : List Token} {c : Compound} : t.kind = .hash →
      CondToks (t :: rest) c
        { c with id := if (String.ofList (unescape (t.text.drop 1))).isEmpty then none
                       else some (String.ofList (unescape (t.text.drop 1))) } rest
  | cls {d n : Token} {rest : List Token} {c : Compound} : d.isDelim '.' = true →
      n.kind = .ident →
      CondToks (d :: n :: rest) c { c with classes := c.classes ++ [String.ofList (unescape n.text)] }
        rest
  | attr {b : Token} {ts rest : List Token} {a : AttrTest} {c : Compound} :
      b.kind = .leftBracket → AttrToks ts a rest →
      CondToks (b :: ts) c { c with attrs := c.attrs ++ [a] } rest

/-- Conditions one after another. -/
inductive CondsToks : List Token → Compound → Compound → List Token → Prop
  | nil (ts : List Token) (c : Compound) : CondsToks ts c c ts
  | cons {ts r rest : List Token} {c c₁ c₂ : Compound} : CondToks ts c c₁ r → CondsToks r c₁ c₂ rest →
      CondsToks ts c c₂ rest

/-- The compound selector without conditions. -/
def Compound.blank : Compound := ⟨none, none, [], []⟩

/-- A compound selector: a type (lowered) or `*` and any conditions, or one condition or more. -/
inductive CompoundToks : List Token → Compound → List Token → Prop
  | typed {t : Token} {ts rest : List Token} {c : Compound} : t.kind = .ident →
      CondsToks ts { Compound.blank with tag := some (lowerText t.str) } c rest →
      CompoundToks (t :: ts) c rest
  | universal {t : Token} {ts rest : List Token} {c : Compound} : t.isDelim '*' = true →
      CondsToks ts Compound.blank c rest → CompoundToks (t :: ts) c rest
  | bare {ts r rest : List Token} {c₁ c : Compound} : CondToks ts Compound.blank c₁ r →
      CondsToks r c₁ c rest → CompoundToks ts c rest

/-- The links of a chain after a compound selector, each extending the chain read so far: `>`
with blanks around it makes the next compound selector a child, blanks alone a descendant. -/
inductive LinksToks : List Token → Chain → Chain → List Token → Prop
  | nil (ts : List Token) (ch : Chain) : LinksToks ts ch ch ts
  | child {ts r₁ r₂ r₃ rest : List Token} {g : Token} {ch ch' : Chain} {c : Compound} :
      Blanks ts (g :: r₁) → g.isDelim '>' = true → Blanks r₁ r₂ → CompoundToks r₂ c r₃ →
      LinksToks r₃ (.child ch c) ch' rest → LinksToks ts ch ch' rest
  | descendant {t : Token} {ts r₁ r₂ rest : List Token} {ch ch' : Chain} {c : Compound} :
      t.kind = .whitespace → Blanks ts r₁ → CompoundToks r₁ c r₂ →
      LinksToks r₂ (.descendant ch c) ch' rest → LinksToks (t :: ts) ch ch' rest

/-- A chain: a compound selector and its links. -/
inductive ChainToks : List Token → Chain → List Token → Prop
  | mk {ts r rest : List Token} {c : Compound} {ch : Chain} : CompoundToks ts c r →
      LinksToks r (.single c) ch rest → ChainToks ts ch rest

/-- A selector list: chains separated by commas, each with blanks around it. -/
inductive ListToks : List Token → List Chain → Prop
  | last {ts r₁ r₂ : List Token} {ch : Chain} : Blanks ts r₁ → ChainToks r₁ ch r₂ → Blanks r₂ [] →
      ListToks ts [ch]
  | cons {ts r₁ r₂ rest : List Token} {k : Token} {ch : Chain} {chs : List Chain} : Blanks ts r₁ →
      ChainToks r₁ ch r₂ → Blanks r₂ (k :: rest) → k.kind = .comma → ListToks rest chs →
      ListToks ts (ch :: chs)

/-- A string token that is only its opening quote: the lexer reads one from a quote at the very
end of the text. -/
def Token.IsLoneQuote (t : Token) : Prop :=
  t.kind = .string ∧ t.text.length < 2

/-- Token kinds are compared by their constructors. -/
instance : LawfulBEq TokenKind where
  eq_of_beq {a b} h := by
    change (a.ctorIdx == b.ctorIdx) = true at h
    rw [← TokenKind.ofNat_ctorIdx a, beq_iff_eq.1 h, TokenKind.ofNat_ctorIdx]
  rfl {a} := by
    change (a.ctorIdx == a.ctorIdx) = true
    exact beq_self_eq_true _

/-! ## Reading in `Except` -/

section Except

variable {ε α β : Type}

@[simp] theorem except_pure_eq_ok (a : α) : (pure a : Except ε α) = .ok a := rfl

@[simp] theorem except_throw_eq_error (e : ε) : (throw e : Except ε α) = .error e := rfl

@[simp] theorem except_ok_bind (a : α) (f : α → Except ε β) : (Except.ok a >>= f) = f a := rfl

@[simp] theorem except_error_bind (e : ε) (f : α → Except ε β) :
    (Except.error e >>= f) = .error e := rfl

/-- A read that succeeds after another succeeded. -/
theorem except_bind_eq_ok_iff {x : Except ε α} {f : α → Except ε β} {b : β} :
    x >>= f = .ok b ↔ ∃ a, x = .ok a ∧ f a = .ok b := by
  cases x <;> simp

/-- A read fails where its first part fails, or after it succeeded. -/
theorem except_bind_eq_error_iff {x : Except ε α} {f : α → Except ε β} {e : ε} :
    x >>= f = .error e ↔ x = .error e ∨ ∃ a, x = .ok a ∧ f a = .error e := by
  cases x <;> simp

end Except

/-! ## Blanks -/

section Blanks

/-- The tokens do not start with a blank. -/
def NoBlankHead (ts : List Token) : Prop :=
  ∀ t ∈ ts.head?, t.kind ≠ .whitespace

theorem Blanks.suffix {ts rest : List Token} (h : Blanks ts rest) : rest <:+ ts := by
  induction h with
  | done ts => exact List.suffix_refl ts
  | blank _ _ ih => exact ih.trans (List.suffix_cons _ _)

/-- What follows blanks and a token is shorter than the tokens. -/
theorem Blanks.length_lt {ts r : List Token} {t : Token} (h : Blanks ts (t :: r)) :
    r.length < ts.length := by
  have := h.suffix.length_le
  simp only [List.length_cons] at this
  omega

theorem Blanks.suffix_tail {ts r : List Token} {t : Token} (h : Blanks ts (t :: r)) : r <:+ ts :=
  (List.suffix_cons t r).trans h.suffix

theorem Blanks.trans {ts r rest : List Token} (h : Blanks ts r) (h' : Blanks r rest) :
    Blanks ts rest := by
  induction h with
  | done => exact h'
  | blank ht _ ih => exact .blank ht (ih h')

theorem skipSpace_cons_of_blank {t : Token} (ts : List Token) (ht : t.kind = .whitespace) :
    skipSpace (t :: ts) = (true, (skipSpace ts).2) := by
  have hb : (t.kind == .whitespace) = true := beq_iff_eq.2 ht
  simp only [skipSpace, List.dropWhile_cons, List.takeWhile_cons, hb, if_true]
  rfl

theorem skipSpace_cons_of_solid {t : Token} (ts : List Token) (ht : t.kind ≠ .whitespace) :
    skipSpace (t :: ts) = (false, t :: ts) := by
  have hb : (t.kind == .whitespace) = false := beq_eq_false_iff_ne.2 ht
  simp only [skipSpace, List.dropWhile_cons, List.takeWhile_cons, hb]
  rfl

theorem blanks_skipSpace (ts : List Token) : Blanks ts (skipSpace ts).2 := by
  induction ts with
  | nil => exact .done []
  | cons t ts ih =>
    by_cases ht : t.kind = .whitespace
    · rw [skipSpace_cons_of_blank ts ht]
      exact .blank ht ih
    · rw [skipSpace_cons_of_solid ts ht]
      exact .done _

theorem noBlankHead_skipSpace (ts : List Token) : NoBlankHead (skipSpace ts).2 := by
  induction ts with
  | nil => simp [NoBlankHead, skipSpace]
  | cons t ts ih =>
    by_cases ht : t.kind = .whitespace
    · rwa [skipSpace_cons_of_blank ts ht]
    · rw [skipSpace_cons_of_solid ts ht]
      rintro u ⟨⟩
      exact ht

theorem skipSpace_of_noBlankHead {ts : List Token} (h : NoBlankHead ts) : skipSpace ts = (false, ts) := by
  cases ts with
  | nil => rfl
  | cons t ts => exact skipSpace_cons_of_solid ts (h t rfl)

/-- Blanks passed over before a token that is not blank are exactly the blanks skipped. -/
theorem skipSpace_of_blanks {ts rest : List Token} (h : Blanks ts rest) (hr : NoBlankHead rest) :
    (skipSpace ts).2 = rest := by
  induction h with
  | done ts => rw [skipSpace_of_noBlankHead hr]
  | blank ht _ ih => rw [skipSpace_cons_of_blank _ ht, ih hr]

/-- Skipping passes over something only from a blank token on. -/
theorem skipSpace_of_fst {ts : List Token} (h : (skipSpace ts).1 = true) :
    ∃ t ts', ts = t :: ts' ∧ t.kind = .whitespace ∧ (skipSpace ts).2 = (skipSpace ts').2 := by
  cases ts with
  | nil => simp [skipSpace] at h
  | cons t ts =>
    by_cases ht : t.kind = .whitespace
    · exact ⟨t, ts, rfl, ht, by rw [skipSpace_cons_of_blank ts ht]⟩
    · rw [skipSpace_cons_of_solid ts ht] at h
      cases h

end Blanks

/-! ## Attribute tests -/

section Attr

theorem Token.kind_of_isDelim {t : Token} {c : Char} (h : t.isDelim c = true) :
    t.kind = .delim ∧ t.text = [c] := by
  simpa [Token.isDelim] using h

/-- The value read from a token is the one the grammar gives it. -/
theorem attrValue_eq_ok_iff {v : Token} {x : String} : attrValue v = .ok x ↔ ValueTok v x := by
  constructor
  · intro h
    unfold attrValue at h
    split at h
    · rename_i hw
      cases h
      exact .word (by simpa using hw)
    · split at h
      · rename_i hs
        split at h
        · cases h
        · rename_i hlen
          cases h
          -- a string of two characters or more: its first, what lies between, and its last
          obtain ⟨q, tl, htl⟩ : ∃ q tl, v.text = q :: tl := by
            cases hv : v.text with
            | nil => simp [hv] at hlen
            | cons q tl => exact ⟨q, tl, rfl⟩
          have htl_ne : tl ≠ [] := by
            rintro rfl
            simp [htl] at hlen
          have hq : ValueTok v (String.ofList tl.dropLast) :=
            .quoted (by simpa using hs) (by rw [htl]; exact congrArg (q :: ·) (List.dropLast_concat_getLast htl_ne).symm)
          simpa [stringValue, htl] using hq
      · cases h
  · rintro (⟨hw⟩ | ⟨hs, htext⟩)
    · simp [attrValue, hw]
    · simp [attrValue, hs, htext, stringValue]

/-- Reading a value stops the program only at a lone quote. -/
theorem attrValue_fault {v : Token} {p : SelectorProblem} (h : attrValue v = .error p)
    (hp : p.isFault = true) : v.IsLoneQuote := by
  unfold attrValue at h
  split at h
  · cases h
  · split at h
    · rename_i hs
      split at h
      · exact ⟨by simpa using hs, by omega⟩
      · cases h
    · cases h
      cases hp

theorem readAttrName_of_blanks {ts r : List Token} {n : Token} (h : Blanks ts (n :: r))
    (hn : n.kind = .ident) : readAttrName ts = .ok (n.str, r) := by
  have hs : (skipSpace ts).2 = n :: r := skipSpace_of_blanks h (by rintro _ ⟨⟩; simp [hn])
  simp [readAttrName, hs, hn]

theorem blanks_of_readAttrName {ts r : List Token} {name : String}
    (h : readAttrName ts = .ok (name, r)) :
    ∃ n, Blanks ts (n :: r) ∧ n.kind = .ident ∧ name = n.str := by
  have hb := blanks_skipSpace ts
  unfold readAttrName at h
  split at h
  · rename_i n r' hs
    split at h
    · rename_i hn
      cases h
      exact ⟨n, hs ▸ hb, by simpa using hn, rfl⟩
    · cases h
  · cases h

/-- No `=`: the match is empty and leaves what follows the blanks. -/
theorem readAttrMatch_of_solid {ts r : List Token} {b : Token} (h : Blanks ts (b :: r))
    (hb : b.kind ≠ .whitespace) (he : b.isDelim '=' = false) :
    readAttrMatch ts = .ok (none, b :: r) := by
  have hs : (skipSpace ts).2 = b :: r := skipSpace_of_blanks h (by rintro _ ⟨⟩; exact hb)
  simp [readAttrMatch, hs, he]

theorem readAttrMatch_of_valueTok {ts r₂ r₃ r : List Token} {e v b : Token} {x : String}
    (h : Blanks ts (e :: r₂)) (he : e.isDelim '=' = true) (h₂ : Blanks r₂ (v :: r₃))
    (hv : ValueTok v x) (h₃ : Blanks r₃ (b :: r)) (hb : b.kind ≠ .whitespace) :
    readAttrMatch ts = .ok (some x, b :: r) := by
  have hs : (skipSpace ts).2 = e :: r₂ :=
    skipSpace_of_blanks h (by rintro _ ⟨⟩; simp [(Token.kind_of_isDelim he).1])
  have hvk : v.kind ≠ .whitespace := by
    cases hv with
    | word hw => rcases hw with hw | hw <;> simp [hw]
    | quoted hs' _ => simp [hs']
  have hs₂ : (skipSpace r₂).2 = v :: r₃ := skipSpace_of_blanks h₂ (by rintro _ ⟨⟩; exact hvk)
  have hs₃ : (skipSpace r₃).2 = b :: r := skipSpace_of_blanks h₃ (by rintro _ ⟨⟩; exact hb)
  simp [readAttrMatch, hs, he, hs₂, attrValue_eq_ok_iff.2 hv, hs₃]

/-- What a match reads: nothing, before a token that is not `=`, or `=` and a value. -/
theorem readAttrMatch_cases {ts u : List Token} {value : Option String}
    (h : readAttrMatch ts = .ok (value, u)) :
    (value = none ∧ Blanks ts u ∧ NoBlankHead u ∧ ∀ e ∈ u.head?, e.isDelim '=' = false) ∨
      ∃ e v r₂ r₃ x, Blanks ts (e :: r₂) ∧ e.isDelim '=' = true ∧ Blanks r₂ (v :: r₃) ∧
        ValueTok v x ∧ Blanks r₃ u ∧ NoBlankHead u ∧ value = some x := by
  have hb := blanks_skipSpace ts
  have hnb := noBlankHead_skipSpace ts
  unfold readAttrMatch at h
  split at h
  · rename_i e r₂ hs
    rw [hs] at hb hnb
    split at h
    · rename_i he
      have hb₂ := blanks_skipSpace r₂
      split at h
      · rename_i v r₃ hs₂
        rw [hs₂] at hb₂
        obtain ⟨x, hx, hrest⟩ := except_bind_eq_ok_iff.1 h
        cases hrest
        exact .inr ⟨e, v, r₂, r₃, x, hb, he, hb₂, attrValue_eq_ok_iff.1 hx, blanks_skipSpace r₃,
          noBlankHead_skipSpace r₃, rfl⟩
      · cases h
    · rename_i he
      cases h
      exact .inl ⟨rfl, hb, hnb, by simpa using he⟩
  · rename_i hs
    cases h
    exact .inl ⟨rfl, hs ▸ hb, by simp [NoBlankHead], by simp⟩

/-- The reader of an attribute test reads exactly the attribute tests of the grammar. -/
theorem readAttrTest_eq_ok_iff {ts rest : List Token} {a : AttrTest} :
    readAttrTest ts = .ok (a, rest) ↔ AttrToks ts a rest := by
  constructor
  · intro h
    obtain ⟨⟨name, r₁⟩, hname, h⟩ := except_bind_eq_ok_iff.1 h
    obtain ⟨n, hb₁, hn, rfl⟩ := blanks_of_readAttrName hname
    obtain ⟨⟨value, u⟩, hmatch, h⟩ := except_bind_eq_ok_iff.1 h
    -- the match leaves the closing bracket in front
    obtain ⟨b, rfl, hbk, rfl⟩ : ∃ b, u = b :: rest ∧ b.kind = .rightBracket ∧ a = ⟨n.str, value⟩ := by
      cases u with
      | nil => cases h
      | cons b r =>
        dsimp only at h
        split at h
        · rename_i hb
          cases h
          exact ⟨b, rfl, by simpa using hb, rfl⟩
        · cases h
    rcases readAttrMatch_cases hmatch with ⟨rfl, hb₂, -, -⟩ | ⟨e, v, r₂, r₃, x, he, hde, hv, hx, hb₃, -, rfl⟩
    · exact .present hb₁ hn hb₂ hbk
    · exact .valued hb₁ hn he hde hv hx hb₃ hbk
  · intro h
    have hbk : ∀ b : Token, b.kind = .rightBracket → b.kind ≠ .whitespace ∧ b.isDelim '=' = false :=
      fun b hb => ⟨by simp [hb], by simp [Token.isDelim, hb]⟩
    cases h with
    | present hb₁ hn hb₂ hb =>
      simp [readAttrTest, readAttrName_of_blanks hb₁ hn,
        readAttrMatch_of_solid hb₂ (hbk _ hb).1 (hbk _ hb).2, hb]
    | valued hb₁ hn he hde hv hx hb₃ hb =>
      simp [readAttrTest, readAttrName_of_blanks hb₁ hn,
        readAttrMatch_of_valueTok he hde hv hx hb₃ (hbk _ hb).1, hb]

theorem AttrToks.suffix {ts rest : List Token} {a : AttrTest} (h : AttrToks ts a rest) :
    rest <:+ ts ∧ rest.length < ts.length := by
  cases h with
  | present hb₁ _ hb₂ _ =>
    exact ⟨hb₂.suffix_tail.trans hb₁.suffix_tail,
      Nat.lt_trans hb₂.length_lt hb₁.length_lt⟩
  | valued hb₁ _ hb₂ _ hb₃ _ hb₄ _ =>
    refine ⟨((hb₄.suffix_tail.trans hb₃.suffix_tail).trans hb₂.suffix_tail).trans hb₁.suffix_tail, ?_⟩
    calc rest.length < _ := hb₄.length_lt
      _ < _ := hb₃.length_lt
      _ < _ := hb₂.length_lt
      _ < ts.length := hb₁.length_lt

theorem readAttrName_not_fault {ts : List Token} {p : SelectorProblem}
    (h : readAttrName ts = .error p) : p.isFault = false := by
  unfold readAttrName at h
  split at h
  · split at h
    · cases h
    · cases h
      rfl
  · cases h
    rfl

/-- Reading what an attribute must equal stops the program only at a lone quote among its
tokens. -/
theorem readAttrMatch_fault {ts : List Token} {p : SelectorProblem}
    (h : readAttrMatch ts = .error p) (hp : p.isFault = true) : ∃ t ∈ ts, t.IsLoneQuote := by
  have hsuf := List.dropWhile_suffix (fun t : Token => t.kind == .whitespace) (l := ts)
  unfold readAttrMatch at h
  split at h
  · rename_i e r₂ hs
    split at h
    · have hsuf₂ := List.dropWhile_suffix (fun t : Token => t.kind == .whitespace) (l := r₂)
      split at h
      · rename_i v r₃ hs₂
        rcases except_bind_eq_error_iff.1 h with hv | ⟨x, -, h'⟩
        · -- the value token lies in the tokens after `=`
          refine ⟨v, ?_, attrValue_fault hv hp⟩
          have hv₂ : v ∈ (skipSpace r₂).2 := by rw [hs₂]; exact List.mem_cons_self
          have hr₂ : r₂ <:+ (skipSpace ts).2 := by rw [hs]; exact List.suffix_cons e r₂
          exact hsuf.subset (hr₂.subset (hsuf₂.subset hv₂))
        · cases h'
      · cases h
        cases hp
    · cases h
  · cases h

/-- Reading an attribute test stops the program only at a lone quote among its tokens. -/
theorem readAttrTest_fault {ts : List Token} {p : SelectorProblem}
    (h : readAttrTest ts = .error p) (hp : p.isFault = true) : ∃ t ∈ ts, t.IsLoneQuote := by
  rcases except_bind_eq_error_iff.1 h with hname | ⟨⟨name, r₁⟩, hname, h⟩
  · rw [readAttrName_not_fault hname] at hp
    cases hp
  · obtain ⟨n, hb₁, -, -⟩ := blanks_of_readAttrName hname
    rcases except_bind_eq_error_iff.1 h with hmatch | ⟨⟨value, u⟩, -, h⟩
    · obtain ⟨t, ht, hq⟩ := readAttrMatch_fault hmatch hp
      exact ⟨t, hb₁.suffix_tail.subset ht, hq⟩
    · -- the closing bracket is checked last, and its errors are refusals
      cases u with
      | nil => cases h; cases hp
      | cons b r =>
        dsimp only at h
        split at h
        · cases h
        · cases h
          cases hp

end Attr

/-! ## Conditions -/

section Conditions

/-- The tokens a compound selector goes on at: the starts of conditions, and `:`, which starts
a pseudo-class and is refused. -/
def Token.ContinuesCompound (t : Token) : Prop :=
  t.kind = .hash ∨ t.isDelim '.' = true ∨ t.kind = .leftBracket ∨ t.kind = .colon

/-- Where a compound selector ends: at the end of the tokens, or before a token it does not go
on at. -/
def EndsCompound (ts : List Token) : Prop :=
  ∀ t ∈ ts.head?, ¬ t.ContinuesCompound

variable {fuel : Nat} {c : Compound} {started : Bool} {t : Token} {r : List Token}

theorem readConditions_hash (ht : t.kind = .hash) :
    readConditions (fuel + 1) c started (t :: r) =
      readConditions fuel
        { c with id := if (String.ofList (unescape (t.text.drop 1))).isEmpty then none
                       else some (String.ofList (unescape (t.text.drop 1))) } true r := by
  cases r <;> simp [readConditions, ht]

theorem readConditions_class {n : Token} (hd : t.isDelim '.' = true) (hn : n.kind = .ident) :
    readConditions (fuel + 1) c started (t :: n :: r) =
      readConditions fuel { c with classes := c.classes ++ [String.ofList (unescape n.text)] }
        true r := by
  have hk : t.kind ≠ .hash := by simp [(Token.kind_of_isDelim hd).1]
  simp [readConditions, hk, hd, hn]

/-- A `.` not followed by a name is refused. -/
theorem readConditions_class_error (hd : t.isDelim '.' = true)
    (hn : ∀ n ∈ r.head?, n.kind ≠ .ident) :
    readConditions (fuel + 1) c started (t :: r) = .error .expectedClassName := by
  have hk : t.kind ≠ .hash := by simp [(Token.kind_of_isDelim hd).1]
  cases r with
  | nil => simp [readConditions, hk, hd]
  | cons n r => simp [readConditions, hk, hd, hn n rfl]

theorem readConditions_attr (hb : t.kind = .leftBracket) :
    readConditions (fuel + 1) c started (t :: r) =
      readAttrTest r >>= fun x => readConditions fuel { c with attrs := c.attrs ++ [x.1] } true x.2 := by
  have hd : t.isDelim '.' = false := by simp [Token.isDelim, hb]
  cases r <;> simp [readConditions, hb, hd]

/-- At a token that starts no condition, a compound selector ends, if anything was read. -/
theorem readConditions_other (hc : ¬ t.ContinuesCompound) :
    readConditions (fuel + 1) c started (t :: r) =
      if started then .ok (c, t :: r) else .error (.expectedSelector t.str) := by
  simp only [Token.ContinuesCompound, not_or] at hc
  obtain ⟨h₁, h₂, h₃, h₄⟩ := hc
  cases r <;> cases started <;> simp [readConditions, h₁, h₂, h₃, h₄]

theorem readConditions_colon (hc : t.kind = .colon) :
    readConditions (fuel + 1) c started (t :: r) = .error .pseudoClass := by
  have hd : t.isDelim '.' = false := by simp [Token.isDelim, hc]
  cases r <;> simp [readConditions, hc, hd]

theorem CondToks.suffix {ts rest : List Token} {c c' : Compound} (h : CondToks ts c c' rest) :
    rest <:+ ts ∧ rest.length < ts.length := by
  cases h with
  | id _ => exact ⟨List.suffix_cons _ _, by simp⟩
  | cls _ _ => exact ⟨(List.suffix_cons _ _).trans (List.suffix_cons _ _), by simp only [List.length_cons]; omega⟩
  | attr _ ha =>
    obtain ⟨hs, hl⟩ := ha.suffix
    exact ⟨hs.trans (List.suffix_cons _ _), by simp only [List.length_cons]; omega⟩

theorem CondsToks.suffix {ts rest : List Token} {c c' : Compound} (h : CondsToks ts c c' rest) :
    rest <:+ ts := by
  induction h with
  | nil => exact List.suffix_refl _
  | cons hc _ ih => exact ih.trans hc.suffix.1

/-- The conditions of the grammar are read, given the fuel to read one per token, up to where the
compound selector ends. -/
theorem readConditions_of_condsToks {ts rest : List Token} {c c' : Compound}
    (h : CondsToks ts c c' rest) (hend : EndsCompound rest) :
    ∀ {fuel : Nat} {started : Bool}, ts.length < fuel → (started = true ∨ ts ≠ rest) →
      readConditions fuel c started ts = .ok (c', rest) := by
  induction h with
  | nil ts c =>
    intro fuel started hfuel hs
    obtain ⟨f, rfl⟩ : ∃ f, fuel = f + 1 := ⟨fuel - 1, by omega⟩
    have hs : started = true := by simpa using hs
    subst hs
    cases ts with
    | nil => simp [readConditions]
    | cons t r => simp [readConditions_other (hend t rfl)]
  | cons hc _ ih =>
    intro fuel started hfuel _
    obtain ⟨f, rfl⟩ : ∃ f, fuel = f + 1 := ⟨fuel - 1, by omega⟩
    cases hc with
    | id ht =>
      rw [readConditions_hash ht]
      exact ih hend (by simpa using hfuel) (.inl rfl)
    | cls hd hn =>
      rw [readConditions_class hd hn]
      exact ih hend (by simp at hfuel; omega) (.inl rfl)
    | attr hb ha =>
      rw [readConditions_attr hb, readAttrTest_eq_ok_iff.2 ha, except_ok_bind]
      have := ha.suffix.2
      exact ih hend (by simp at hfuel; omega) (.inl rfl)

/-- One step of the conditions reader at a token: it reads a condition of the grammar and goes on
after it, refuses a malformed condition, fails inside an attribute test, or ends the compound
selector there, if anything was read. -/
theorem readConditions_cons_cases (fuel : Nat) (c : Compound) (started : Bool) (t : Token)
    (r : List Token) :
    (∃ c₁ r', CondToks (t :: r) c c₁ r' ∧
      readConditions (fuel + 1) c started (t :: r) = readConditions fuel c₁ true r') ∨
    (∃ p, p.isFault = false ∧ readConditions (fuel + 1) c started (t :: r) = .error p) ∨
    (∃ p, readAttrTest r = .error p ∧ readConditions (fuel + 1) c started (t :: r) = .error p) ∨
    (¬ t.ContinuesCompound ∧ started = true ∧
      readConditions (fuel + 1) c started (t :: r) = .ok (c, t :: r)) := by
  by_cases hh : t.kind = .hash
  · exact .inl ⟨_, _, .id hh, readConditions_hash hh⟩
  by_cases hd : t.isDelim '.' = true
  · cases r with
    | nil => exact .inr (.inl ⟨_, rfl, readConditions_class_error hd (by simp)⟩)
    | cons n r =>
      by_cases hn : n.kind = .ident
      · exact .inl ⟨_, _, .cls hd hn, readConditions_class hd hn⟩
      · exact .inr (.inl ⟨_, rfl, readConditions_class_error hd (by simpa using hn)⟩)
  by_cases hb : t.kind = .leftBracket
  · rw [readConditions_attr hb]
    cases ha : readAttrTest r with
    | error p => exact .inr (.inr (.inl ⟨p, rfl, rfl⟩))
    | ok x =>
      obtain ⟨a, r'⟩ := x
      exact .inl ⟨_, r', .attr hb (readAttrTest_eq_ok_iff.1 ha), rfl⟩
  by_cases hc : t.kind = .colon
  · exact .inr (.inl ⟨_, rfl, readConditions_colon hc⟩)
  have hend : ¬ t.ContinuesCompound := by
    simp only [Token.ContinuesCompound, not_or]
    exact ⟨hh, by simpa using hd, hb, hc⟩
  rw [readConditions_other hend]
  cases started
  · exact .inr (.inl ⟨_, rfl, rfl⟩)
  · exact .inr (.inr (.inr ⟨hend, rfl, rfl⟩))

/-- What the conditions reader reads, given the fuel to read one per token, is conditions of the
grammar up to where the compound selector ends, at least one unless something was read before. -/
theorem condsToks_of_readConditions :
    ∀ {fuel : Nat} {c c' : Compound} {started : Bool} {ts rest : List Token},
      readConditions fuel c started ts = .ok (c', rest) → ts.length < fuel →
      CondsToks ts c c' rest ∧ EndsCompound rest ∧ (started = true ∨ ts ≠ rest)
  | 0, _, _, _, _, _, _, hfuel => absurd hfuel (Nat.not_lt_zero _)
  | f + 1, c, c', started, [], rest, h, _ => by
    cases started
    · simp [readConditions] at h
    · simp only [readConditions, if_true, except_pure_eq_ok, Except.ok.injEq, Prod.mk.injEq] at h
      obtain ⟨rfl, rfl⟩ := h
      exact ⟨.nil _ _, by simp [EndsCompound], .inl rfl⟩
  | f + 1, c, c', started, t :: r, rest, h, hfuel => by
    rcases readConditions_cons_cases f c started t r with
      ⟨c₁, r', hc, hstep⟩ | ⟨p, -, hstep⟩ | ⟨p, -, hstep⟩ | ⟨hend, rfl, hstep⟩ <;> rw [hstep] at h
    · -- a condition read at the front: the rest is read by the reader one step on, and the
      -- conditions read are not empty
      have hl : r'.length < f := by
        have := hc.suffix.2
        simp only [List.length_cons] at this hfuel
        omega
      obtain ⟨hcs, hend, -⟩ := condsToks_of_readConditions h hl
      refine ⟨.cons hc hcs, hend, .inr fun heq => ?_⟩
      have := hcs.suffix.length_le
      have := hc.suffix.2
      rw [heq] at this
      omega
    · cases h
    · cases h
    · cases h
      exact ⟨.nil _ _, fun u hu => by cases hu; exact hend, .inl rfl⟩

/-- Reading conditions stops the program only at a lone quote among the tokens. -/
theorem readConditions_fault :
    ∀ {fuel : Nat} {c : Compound} {started : Bool} {ts : List Token} {p : SelectorProblem},
      readConditions fuel c started ts = .error p → p.isFault = true → ∃ t ∈ ts, t.IsLoneQuote
  | 0, _, _, _, _, h, _ => by simp [readConditions] at h
  | f + 1, c, started, [], p, h, hp => by
    cases started <;> simp [readConditions] at h
    subst h
    cases hp
  | f + 1, c, started, t :: r, p, h, hp => by
    rcases readConditions_cons_cases f c started t r with
      ⟨c₁, r', hc, hstep⟩ | ⟨p', hp', hstep⟩ | ⟨p', ha, hstep⟩ | ⟨-, -, hstep⟩ <;> rw [hstep] at h
    · obtain ⟨u, hu, hq⟩ := readConditions_fault h hp
      exact ⟨u, hc.suffix.1.subset hu, hq⟩
    · cases h
      rw [hp'] at hp
      cases hp
    · -- only an attribute test faults by itself
      cases h
      obtain ⟨u, hu, hq⟩ := readAttrTest_fault ha hp
      exact ⟨u, List.mem_cons_of_mem _ hu, hq⟩
    · cases h

end Conditions

/-! ## Compound selectors -/

section Compound

/-- A condition starts with `#…`, `.` or `[`. -/
theorem CondToks.head {ts rest : List Token} {c c' : Compound} (h : CondToks ts c c' rest) :
    ∃ t r, ts = t :: r ∧ (t.kind = .hash ∨ t.isDelim '.' = true ∨ t.kind = .leftBracket) := by
  cases h with
  | id ht => exact ⟨_, _, rfl, .inl ht⟩
  | cls hd _ => exact ⟨_, _, rfl, .inr (.inl hd)⟩
  | attr hb _ => exact ⟨_, _, rfl, .inr (.inr hb)⟩

/-- The token a condition starts with is no blank, comma, name, `*` or `>`: a condition can
neither be a type nor end a compound selector. -/
theorem ne_of_startsCondition {t : Token}
    (ht : t.kind = .hash ∨ t.isDelim '.' = true ∨ t.kind = .leftBracket) :
    t.kind ≠ .whitespace ∧ t.kind ≠ .comma ∧ t.kind ≠ .ident ∧ t.isDelim '*' = false ∧
      t.isDelim '>' = false := by
  rcases ht with ht | ht | ht
  · simp [ht, Token.isDelim]
  · obtain ⟨hk, htext⟩ := Token.kind_of_isDelim ht
    simp [hk, htext, Token.isDelim]
  · simp [ht, Token.isDelim]

theorem CompoundToks.suffix {ts rest : List Token} {c : Compound} (h : CompoundToks ts c rest) :
    rest <:+ ts ∧ rest.length < ts.length := by
  cases h with
  | typed _ hcs | universal _ hcs =>
    have := hcs.suffix
    exact ⟨this.trans (List.suffix_cons _ _), by have := this.length_le; simp; omega⟩
  | bare hc hcs =>
    have := hcs.suffix
    exact ⟨this.trans hc.suffix.1, by have := this.length_le; have := hc.suffix.2; omega⟩

/-- A compound selector starts with a token that is neither blank, nor a comma, nor `>`. -/
theorem CompoundToks.head {ts rest : List Token} {c : Compound} (h : CompoundToks ts c rest) :
    ∃ t r, ts = t :: r ∧ t.kind ≠ .whitespace ∧ t.kind ≠ .comma ∧ t.isDelim '>' = false := by
  cases h with
  | typed ht _ => exact ⟨_, _, rfl, by simp [ht], by simp [ht], by simp [Token.isDelim, ht]⟩
  | universal hd _ =>
    obtain ⟨hk, htext⟩ := Token.kind_of_isDelim hd
    exact ⟨_, _, rfl, by simp [hk], by simp [hk], by simp [Token.isDelim, htext]⟩
  | bare hc _ =>
    obtain ⟨t, r, rfl, ht⟩ := hc.head
    obtain ⟨hb, hk, -, -, hg⟩ := ne_of_startsCondition ht
    exact ⟨t, r, rfl, hb, hk, hg⟩

/-- The compound selector reader reads exactly the compound selectors of the grammar, up to
where they end. -/
theorem readCompound_eq_ok_iff {ts rest : List Token} {c : Compound} :
    readCompound ts = .ok (c, rest) ↔ CompoundToks ts c rest ∧ EndsCompound rest := by
  constructor
  · intro h
    cases ts with
    | nil => simp [readCompound, readConditions] at h
    | cons t r =>
      unfold readCompound at h
      dsimp only at h
      split at h
      · rename_i ht
        obtain ⟨hcs, hend, -⟩ := condsToks_of_readConditions h (by simp)
        exact ⟨.typed (by simpa using ht) hcs, hend⟩
      · split at h
        · rename_i _ hd
          obtain ⟨hcs, hend, -⟩ := condsToks_of_readConditions h (by simp)
          exact ⟨.universal hd hcs, hend⟩
        · -- no type: at least one condition
          obtain ⟨hcs, hend, hne⟩ := condsToks_of_readConditions h (by simp)
          cases hcs with
          | nil => simp at hne
          | cons hc hcs => exact ⟨.bare hc hcs, hend⟩
  · rintro ⟨h, hend⟩
    cases h with
    | typed ht hcs =>
      simp only [readCompound, ht, beq_self_eq_true, if_true]
      exact readConditions_of_condsToks hcs hend (by simp) (.inl rfl)
    | @universal t _ _ _ hd hcs =>
      have hk : t.kind ≠ .ident := by simp [(Token.kind_of_isDelim hd).1]
      simp only [readCompound, beq_iff_eq, hk, if_false, hd, if_true]
      exact readConditions_of_condsToks hcs hend (by simp) (.inl rfl)
    | bare hc hcs =>
      obtain ⟨t, r, rfl, ht⟩ := hc.head
      obtain ⟨-, -, hk, hstar, -⟩ := ne_of_startsCondition ht
      simp only [readCompound, beq_iff_eq, hk, if_false, hstar, Bool.false_eq_true]
      refine readConditions_of_condsToks (.cons hc hcs) hend (by simp) (.inr fun heq => ?_)
      have := (CompoundToks.bare hc hcs).suffix.2
      rw [← heq] at this
      omega

theorem readCompound_fault {ts : List Token} {p : SelectorProblem}
    (h : readCompound ts = .error p) (hp : p.isFault = true) : ∃ t ∈ ts, t.IsLoneQuote := by
  cases ts with
  | nil => simp [readCompound, readConditions] at h; subst h; cases hp
  | cons t r =>
    unfold readCompound at h
    dsimp only at h
    split at h
    · obtain ⟨u, hu, hq⟩ := readConditions_fault h hp
      exact ⟨u, List.mem_cons_of_mem _ hu, hq⟩
    · split at h
      · obtain ⟨u, hu, hq⟩ := readConditions_fault h hp
        exact ⟨u, List.mem_cons_of_mem _ hu, hq⟩
      · exact readConditions_fault h hp

end Compound

/-! ## Chains -/

section Chain

/-- Where a chain ends: at the end of the tokens or at a comma. -/
def AtChainEnd (ts : List Token) : Prop :=
  ∀ t ∈ ts.head?, t.kind = .comma

variable {fuel : Nat} {left : Option (Chain × Bool)} {ts r₁ : List Token} {c : Compound}

/-- The chain ends after a compound selector and blanks, at the end or at a comma. -/
theorem readChain_end {rest : List Token} (hc : readCompound ts = .ok (c, r₁))
    (hs : (skipSpace r₁).2 = rest) (hend : AtChainEnd rest) :
    readChain (fuel + 1) left ts = .ok (Chain.extend left c, rest) := by
  rcases hsk : skipSpace r₁ with ⟨sp, u⟩
  rw [hsk] at hs
  subst hs
  simp only [readChain, hc, except_ok_bind, hsk]
  cases u with
  | nil => rfl
  | cons k r => simp [hend k rfl]

/-- `>` after a compound selector and blanks: the next one is a child. -/
theorem readChain_child {g : Token} {r : List Token} (hc : readCompound ts = .ok (c, r₁))
    (hs : (skipSpace r₁).2 = g :: r) (hg : g.isDelim '>' = true) :
    readChain (fuel + 1) left ts = readChain fuel (some (Chain.extend left c, true)) (skipSpace r).2 := by
  have hk : g.kind ≠ .comma := by simp [(Token.kind_of_isDelim hg).1]
  rcases hsk : skipSpace r₁ with ⟨sp, u⟩
  rw [hsk] at hs
  subst hs
  simp [readChain, hc, hsk, hk, hg]

/-- Blanks after a compound selector, then another one: a descendant. -/
theorem readChain_descendant {u : Token} {r : List Token} (hc : readCompound ts = .ok (c, r₁))
    (hsp : (skipSpace r₁).1 = true) (hs : (skipSpace r₁).2 = u :: r) (hu : u.kind ≠ .comma)
    (hg : u.isDelim '>' = false) :
    readChain (fuel + 1) left ts = readChain fuel (some (Chain.extend left c, false)) (u :: r) := by
  rcases hsk : skipSpace r₁ with ⟨sp, u'⟩
  rw [hsk] at hs hsp
  dsimp only at hs hsp
  subst hs hsp
  simp [readChain, hc, hsk, hu, hg]

/-- Anything else right after a compound selector is refused. -/
theorem readChain_unexpected {u : Token} {r : List Token} (hc : readCompound ts = .ok (c, r₁))
    (hsp : (skipSpace r₁).1 = false) (hs : (skipSpace r₁).2 = u :: r) (hu : u.kind ≠ .comma)
    (hg : u.isDelim '>' = false) :
    readChain (fuel + 1) left ts = .error (.unexpected u.str) := by
  rcases hsk : skipSpace r₁ with ⟨sp, u'⟩
  rw [hsk] at hs hsp
  dsimp only at hs hsp
  subst hs hsp
  simp [readChain, hc, hsk, hu, hg]

theorem readChain_compound_error {p : SelectorProblem} (hc : readCompound ts = .error p) :
    readChain (fuel + 1) left ts = .error p := by
  simp [readChain, hc]

/-- One step of the chain reader after a compound selector and the blanks after it: the chain
ends at the end or at a comma, goes on to a child after `>` or to a descendant after blanks, or
is refused. -/
theorem readChain_cases (fuel : Nat) (left : Option (Chain × Bool))
    (hc : readCompound ts = .ok (c, r₁)) :
    (AtChainEnd (skipSpace r₁).2 ∧
      readChain (fuel + 1) left ts = .ok (Chain.extend left c, (skipSpace r₁).2)) ∨
    (∃ g r, (skipSpace r₁).2 = g :: r ∧ g.isDelim '>' = true ∧
      readChain (fuel + 1) left ts = readChain fuel (some (Chain.extend left c, true)) (skipSpace r).2) ∨
    (∃ u r, (skipSpace r₁).1 = true ∧ (skipSpace r₁).2 = u :: r ∧
      readChain (fuel + 1) left ts = readChain fuel (some (Chain.extend left c, false)) (u :: r)) ∨
    (∃ u : Token, readChain (fuel + 1) left ts = .error (.unexpected u.str)) := by
  cases hu : (skipSpace r₁).2 with
  | nil => exact .inl ⟨by simp [AtChainEnd], readChain_end hc hu (by simp [AtChainEnd])⟩
  | cons u r =>
    by_cases hk : u.kind = .comma
    · have hend : AtChainEnd (u :: r) := by rintro _ ⟨⟩; exact hk
      exact .inl ⟨hend, readChain_end hc hu hend⟩
    by_cases hg : u.isDelim '>' = true
    · exact .inr (.inl ⟨u, r, rfl, hg, readChain_child hc hu hg⟩)
    cases hsp : (skipSpace r₁).1
    · exact .inr (.inr (.inr ⟨u, readChain_unexpected hc hsp hu hk (by simpa using hg)⟩))
    · exact .inr (.inr (.inl ⟨u, r, rfl, rfl, readChain_descendant hc hsp hu hk (by simpa using hg)⟩))

theorem AtChainEnd.noBlankHead {ts : List Token} (h : AtChainEnd ts) : NoBlankHead ts := by
  intro t ht
  simp [h t ht]

/-- A compound selector ends before blanks, a comma and `>`. -/
theorem not_continuesCompound {t : Token} (h : t.kind = .whitespace ∨ t.kind = .comma ∨
    t.isDelim '>' = true) : ¬ t.ContinuesCompound := by
  simp only [Token.ContinuesCompound, not_or]
  rcases h with h | h | h
  · simp [h, Token.isDelim]
  · simp [h, Token.isDelim]
  · obtain ⟨hk, htext⟩ := Token.kind_of_isDelim h
    simp [hk, Token.isDelim, htext]

theorem Blanks.endsCompound {ts rest : List Token} (h : Blanks ts rest) (hend : EndsCompound rest) :
    EndsCompound ts := by
  cases h with
  | done => exact hend
  | blank ht _ =>
    rintro u ⟨⟩
    exact not_continuesCompound (.inl ht)

theorem LinksToks.suffix {ts rest : List Token} {ch ch' : Chain} (h : LinksToks ts ch ch' rest) :
    rest <:+ ts := by
  induction h with
  | nil => exact List.suffix_refl _
  | child hb₁ _ hb₂ hc _ ih =>
    exact ih.trans (hc.suffix.1.trans (hb₂.suffix.trans hb₁.suffix_tail))
  | descendant _ hb hc _ ih =>
    exact ih.trans (hc.suffix.1.trans (hb.suffix.trans (List.suffix_cons _ _)))

theorem ChainToks.suffix {ts rest : List Token} {ch : Chain} (h : ChainToks ts ch rest) :
    rest <:+ ts ∧ rest.length < ts.length := by
  obtain ⟨hc, hl⟩ := h
  exact ⟨hl.suffix.trans hc.suffix.1,
    Nat.lt_of_le_of_lt hl.suffix.length_le hc.suffix.2⟩

/-- The links of the grammar are read, chained onto the compound selector before them, up to the
end of the chain. -/
theorem readChain_of_linksToks {r₁ r₂ : List Token} {ch₀ ch : Chain}
    (h : LinksToks r₁ ch₀ ch r₂) :
    ∀ {fuel : Nat} {left : Option (Chain × Bool)} {ts rest : List Token} {c : Compound},
      CompoundToks ts c r₁ → Chain.extend left c = ch₀ → Blanks r₂ rest → AtChainEnd rest →
      ts.length < fuel → readChain fuel left ts = .ok (ch, rest) := by
  induction h with
  | nil r₁ ch₀ =>
    intro fuel left ts rest c hc hch hb hend hfuel
    obtain ⟨f, rfl⟩ : ∃ f, fuel = f + 1 := ⟨fuel - 1, by omega⟩
    have hends : EndsCompound r₁ :=
      hb.endsCompound fun t ht => not_continuesCompound (.inr (.inl (hend t ht)))
    rw [← hch]
    exact readChain_end (readCompound_eq_ok_iff.2 ⟨hc, hends⟩)
      (skipSpace_of_blanks hb hend.noBlankHead) hend
  | @child r₁ r₁' r₂' r₃ rest' g ch₀ ch c' hb₁ hg hb₂ hc' _ ih =>
    intro fuel left ts rest c hc hch hb hend hfuel
    obtain ⟨f, rfl⟩ : ∃ f, fuel = f + 1 := ⟨fuel - 1, by omega⟩
    have hends : EndsCompound r₁ :=
      hb₁.endsCompound fun t ht => by cases ht; exact not_continuesCompound (.inr (.inr hg))
    have hcomp := readCompound_eq_ok_iff.2 ⟨hc, hends⟩
    obtain ⟨u, r, rfl, hu, -, -⟩ := hc'.head
    have hgk : g.kind ≠ .whitespace := by simp [(Token.kind_of_isDelim hg).1]
    rw [readChain_child hcomp (skipSpace_of_blanks hb₁ (by rintro _ ⟨⟩; exact hgk)) hg,
      skipSpace_of_blanks hb₂ (by rintro _ ⟨⟩; exact hu)]
    have := hc.suffix.2
    have := hb₁.length_lt
    have := hb₂.suffix.length_le
    exact ih hc' (by rw [← hch]; rfl) hb hend (by simp at *; omega)
  | @descendant t r₁ r₂' r₃ rest' ch₀ ch c' ht hb₁ hc' _ ih =>
    intro fuel left ts rest c hc hch hb hend hfuel
    obtain ⟨f, rfl⟩ : ∃ f, fuel = f + 1 := ⟨fuel - 1, by omega⟩
    have hends : EndsCompound (t :: r₁) := by
      rintro _ ⟨⟩
      exact not_continuesCompound (.inl ht)
    have hcomp := readCompound_eq_ok_iff.2 ⟨hc, hends⟩
    obtain ⟨u, r, rfl, hu, hk, hg⟩ := hc'.head
    have hs : (skipSpace (t :: r₁)).2 = u :: r := by
      rw [skipSpace_cons_of_blank _ ht, skipSpace_of_blanks hb₁ (by rintro _ ⟨⟩; exact hu)]
    rw [readChain_descendant hcomp (by rw [skipSpace_cons_of_blank _ ht]) hs hk hg]
    have := hc.suffix.2
    have := hb₁.suffix.length_le
    exact ih hc' (by rw [← hch]; rfl) hb hend (by simp at *; omega)

/-- What the chain reader reads is a compound selector and links of the grammar, up to the end of
the chain. -/
theorem linksToks_of_readChain :
    ∀ {fuel : Nat} {left : Option (Chain × Bool)} {ts : List Token} {ch : Chain} {rest : List Token},
      readChain fuel left ts = .ok (ch, rest) →
      ∃ c r₁ r₂, CompoundToks ts c r₁ ∧ LinksToks r₁ (Chain.extend left c) ch r₂ ∧
        Blanks r₂ rest ∧ AtChainEnd rest
  | 0, _, _, _, _, h => by simp [readChain] at h
  | f + 1, left, ts, ch, rest, h => by
    cases hc : readCompound ts with
    | error p => rw [readChain_compound_error hc] at h; cases h
    | ok x =>
      obtain ⟨c, r₁⟩ := x
      have hcomp := (readCompound_eq_ok_iff.1 hc).1
      have hb := blanks_skipSpace r₁
      rcases readChain_cases f left hc with
        ⟨hend, hstep⟩ | ⟨g, r, hu, hg, hstep⟩ | ⟨u, r, hsp, hu, hstep⟩ | ⟨u, hstep⟩ <;>
        rw [hstep] at h
      · cases h
        exact ⟨c, r₁, r₁, hcomp, .nil _ _, hb, hend⟩
      · obtain ⟨c', r₃, r₄, hc', hl, hb', hend⟩ := linksToks_of_readChain h
        exact ⟨c, r₁, r₄, hcomp, .child (hu ▸ hb) hg (blanks_skipSpace r) hc' hl, hb', hend⟩
      · obtain ⟨c', r₃, r₄, hc', hl, hb', hend⟩ := linksToks_of_readChain h
        -- the blanks skipped after the compound selector start with a blank token
        obtain ⟨t, r₁', rfl, ht, hskip⟩ := skipSpace_of_fst hsp
        have hb₁ : Blanks r₁' (u :: r) := by
          rw [← hu, hskip]
          exact blanks_skipSpace r₁'
        exact ⟨c, t :: r₁', r₄, hcomp, .descendant ht hb₁ hc' hl, hb', hend⟩
      · cases h

/-- Reading a chain stops the program only at a lone quote among its tokens. -/
theorem readChain_fault :
    ∀ {fuel : Nat} {left : Option (Chain × Bool)} {ts : List Token} {p : SelectorProblem},
      readChain fuel left ts = .error p → p.isFault = true → ∃ t ∈ ts, t.IsLoneQuote
  | 0, _, _, _, h, hp => by simp [readChain] at h; subst h; cases hp
  | f + 1, left, ts, p, h, hp => by
    cases hc : readCompound ts with
    | error p' =>
      rw [readChain_compound_error hc] at h
      cases h
      exact readCompound_fault hc hp
    | ok x =>
      obtain ⟨c, r₁⟩ := x
      have hsuf : (skipSpace r₁).2 <:+ ts :=
        (List.dropWhile_suffix _).trans (readCompound_eq_ok_iff.1 hc).1.suffix.1
      rcases readChain_cases f left hc with
        ⟨-, hstep⟩ | ⟨g, r, hu, -, hstep⟩ | ⟨u, r, -, hu, hstep⟩ | ⟨u, hstep⟩ <;>
        rw [hstep] at h
      · cases h
      · obtain ⟨t, ht, hq⟩ := readChain_fault h hp
        have : (skipSpace r).2 <:+ g :: r := (List.dropWhile_suffix _).trans (List.suffix_cons g r)
        exact ⟨t, (this.trans (hu ▸ hsuf)).subset ht, hq⟩
      · obtain ⟨t, ht, hq⟩ := readChain_fault h hp
        exact ⟨t, (hu ▸ hsuf).subset ht, hq⟩
      · cases h
        cases hp

end Chain

/-! ## Selector lists -/

section List

variable {fuel : Nat} {ts u : List Token} {ch : Chain}

theorem readChains_last (h : readChain (ts.length + 1) none (skipSpace ts).2 = .ok (ch, u))
    (hu : (skipSpace u).2 = []) : readChains (fuel + 1) ts = .ok [ch] := by
  simp [readChains, h, hu]

theorem readChains_comma {k : Token} {r : List Token}
    (h : readChain (ts.length + 1) none (skipSpace ts).2 = .ok (ch, u))
    (hu : (skipSpace u).2 = k :: r) (hk : k.kind = .comma) :
    readChains (fuel + 1) ts = readChains fuel r >>= fun chs => .ok (ch :: chs) := by
  simp [readChains, h, hu, hk]

theorem readChains_chain_error {p : SelectorProblem}
    (h : readChain (ts.length + 1) none (skipSpace ts).2 = .error p) :
    readChains (fuel + 1) ts = .error p := by
  simp [readChains, h]

/-- The selector lists of the grammar are read, given the fuel to read one chain per token. -/
theorem readChains_of_listToks {chs : List Chain} (h : ListToks ts chs) :
    ∀ {fuel : Nat}, ts.length < fuel → readChains fuel ts = .ok chs := by
  -- a chain of the grammar, after the blanks before it, is read up to its end
  have chain : ∀ {ts r₁ r₂ rest : List Token} {ch : Chain}, Blanks ts r₁ → ChainToks r₁ ch r₂ →
      Blanks r₂ rest → AtChainEnd rest →
      readChain (ts.length + 1) none (skipSpace ts).2 = .ok (ch, rest) := by
    intro ts r₁ r₂ rest ch hb₁ hch hb₂ hend
    obtain ⟨hc, hl⟩ := hch
    obtain ⟨t, r, rfl, ht, -, -⟩ := hc.head
    rw [skipSpace_of_blanks hb₁ (by rintro _ ⟨⟩; exact ht)]
    exact readChain_of_linksToks hl hc rfl hb₂ hend
      (by have := hb₁.suffix.length_le; omega)
  induction h with
  | last hb₁ hch hb₂ =>
    intro fuel hfuel
    obtain ⟨f, rfl⟩ : ∃ f, fuel = f + 1 := ⟨fuel - 1, by omega⟩
    exact readChains_last (chain hb₁ hch hb₂ (by simp [AtChainEnd])) rfl
  | @cons ts r₁ r₂ rest k ch chs hb₁ hch hb₂ hk _ ih =>
    intro fuel hfuel
    obtain ⟨f, rfl⟩ : ∃ f, fuel = f + 1 := ⟨fuel - 1, by omega⟩
    have hend : AtChainEnd (k :: rest) := by rintro _ ⟨⟩; exact hk
    rw [readChains_comma (chain hb₁ hch hb₂ hend) (skipSpace_of_blanks (.done _) hend.noBlankHead)
      hk]
    have := hb₁.suffix.length_le
    have := hch.suffix.2
    have := hb₂.suffix.length_le
    rw [ih (by simp at *; omega), except_ok_bind]

/-- What the selector list reader reads, given the fuel to read one chain per token, is a
selector list of the grammar. -/
theorem listToks_of_readChains :
    ∀ {fuel : Nat} {ts : List Token} {chs : List Chain},
      readChains fuel ts = .ok chs → ts.length < fuel → ListToks ts chs
  | 0, _, _, _, hfuel => absurd hfuel (Nat.not_lt_zero _)
  | f + 1, ts, chs, h, hfuel => by
    cases hr : readChain (ts.length + 1) none (skipSpace ts).2 with
    | error p => rw [readChains_chain_error hr] at h; cases h
    | ok x =>
      obtain ⟨ch, u⟩ := x
      obtain ⟨c, r₁, r₂, hc, hl, hb, hend⟩ := linksToks_of_readChain hr
      have hu : (skipSpace u).2 = u := skipSpace_of_blanks (.done _) hend.noBlankHead
      -- the chain ends at the end of the tokens or at a comma
      cases u with
      | nil =>
        rw [readChains_last hr hu] at h
        cases h
        exact .last (blanks_skipSpace ts) ⟨hc, hl⟩ hb
      | cons k r =>
        have hk : k.kind = .comma := hend k rfl
        rw [readChains_comma hr hu hk] at h
        obtain ⟨chs', h', hchs⟩ := except_bind_eq_ok_iff.1 h
        cases hchs
        have := (blanks_skipSpace ts).suffix.length_le
        have := (ChainToks.mk hc hl).suffix.2
        have := hb.suffix.length_le
        exact .cons (blanks_skipSpace ts) ⟨hc, hl⟩ hb hk
          (listToks_of_readChains h' (by simp at *; omega))

/-- Reading a selector list stops the program only at a lone quote among its tokens. -/
theorem readChains_fault :
    ∀ {fuel : Nat} {ts : List Token} {p : SelectorProblem},
      readChains fuel ts = .error p → p.isFault = true → ∃ t ∈ ts, t.IsLoneQuote
  | 0, _, _, h, _ => by cases h
  | f + 1, ts, p, h, hp => by
    have hsuf := List.dropWhile_suffix (fun t : Token => t.kind == .whitespace) (l := ts)
    cases hr : readChain (ts.length + 1) none (skipSpace ts).2 with
    | error p' =>
      rw [readChains_chain_error hr] at h
      cases h
      obtain ⟨t, ht, hq⟩ := readChain_fault hr hp
      exact ⟨t, hsuf.subset ht, hq⟩
    | ok x =>
      obtain ⟨ch, u⟩ := x
      obtain ⟨c, r₁, r₂, hc, hl, hb, hend⟩ := linksToks_of_readChain hr
      have hu : (skipSpace u).2 = u := skipSpace_of_blanks (.done _) hend.noBlankHead
      cases u with
      | nil => rw [readChains_last hr hu] at h; cases h
      | cons k r =>
        rw [readChains_comma hr hu (hend k rfl)] at h
        rcases except_bind_eq_error_iff.1 h with h' | ⟨_, _, h'⟩
        · obtain ⟨t, ht, hq⟩ := readChains_fault h' hp
          -- the chains after the comma lie in the tokens after the first chain
          have : r <:+ ts := (List.suffix_cons k r).trans
            ((hb.suffix.trans hl.suffix).trans (hc.suffix.1.trans hsuf))
          exact ⟨t, this.subset ht, hq⟩
        · cases h'

/-- The selector list reader, with the fuel the selector reader gives it, reads exactly the
selector lists of the grammar. -/
theorem readChains_eq_ok_iff {ts : List Token} {chs : List Chain} :
    readChains (ts.length + 1) ts = .ok chs ↔ ListToks ts chs :=
  ⟨fun h => listToks_of_readChains h (Nat.lt_succ_self _),
    fun h => readChains_of_listToks h (Nat.lt_succ_self _)⟩

end List

end UtilityStyles.Css
