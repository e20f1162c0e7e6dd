import UtilityStyles.Proofs.WordTokens
import UtilityStyles.Proofs.StyleMap
/-!
# Reading back the text of an inline style

The text of an inline style is `p: v; q: w;`. Read as a style attribute it gives the style back
when every name is plain (a lower-case ASCII letter, then lower-case letters, digits and `-`),
every value is plain (words over ASCII letters, digits, `-`, `.`, `%` and `#`, separated by
single spaces) and no name stands twice (`InlineStyle.ofAttr_render`). Setting a plain name to a
plain or blank value keeps a style plain, so on a page whose styles are plain, after any run of
such writes, the text of every element's style reads back as that style
(`Page.styleText_reads_back`).

Values are written as they are, without escapes: a value holding a `;` is read back as more than
one declaration (`InlineStyle.semicolon_value_splits_on_reading`).

## Main definitions

* `IsPlainName`, `declsText` : plain names and the text of plain declarations.
* `InlineStyle.Plain`, `Page.PlainStyles`, `Page.PlainWrite`.

## Main statements

* `readItems_decls` : the declarations of such a text are read in order.
* `InlineStyle.ofAttr_render`, `InlineStyle.Plain.set`.
* `Page.styleText_reads_back`.
-/

namespace UtilityStyles.Css

/-! ## Reading a value -/

section ReadValue

theorem isWordKind_facts : ∀ k : TokenKind, k.isWordKind = true →
    (k == .whitespace || k == .comment) = false ∧ k.endsDeclaration = false ∧
      k.closes = false ∧ k.opens = false := by
  intro k
  cases k <;> decide

theorem ne_of_isWordChar {c d : Char} (hc : isWordChar c = true) (hd : isWordChar d = false) :
    c ≠ d := by
  rintro rfl
  simp [hc] at hd

theorem IsWordToken.not_tight {t : Token} (h : IsWordToken t) : isTightChar t = false := by
  unfold isTightChar
  split
  · rename_i c hc
    have hw : isWordChar c = true := h.2.2 c (by simp [hc])
    simp only [Bool.or_eq_false_iff, beq_eq_false_iff_ne]
    exact ⟨⟨⟨⟨ne_of_isWordChar hw (by decide), ne_of_isWordChar hw (by decide)⟩,
      ne_of_isWordChar hw (by decide)⟩, ne_of_isWordChar hw (by decide)⟩,
      ne_of_isWordChar hw (by decide)⟩
  · rfl

theorem popToken_word {t : Token} (h : IsWordToken t) (rest : List Token) :
    popToken (t :: rest) = (some t, false, rest) := by
  simp [popToken, (isWordKind_facts t.kind h.1).1]

theorem popToken_space {t : Token} (h : IsWordToken t) (rest : List Token) :
    popToken (spaceToken :: t :: rest) = (some t, true, rest) := by
  rw [popToken]
  simp +decide [popToken_word h]

/-- Word tokens after the first of a word are appended with no space. -/
theorem readValue_wordTokens {ts : List Token} (hts : ∀ t ∈ ts, IsWordToken t) (F : Nat)
    (acc : List Char) (more : List Token) :
    readValue (F + ts.length) 0 false acc (ts ++ more) =
      readValue F 0 false (acc ++ ts.flatMap Token.text) more := by
  induction ts generalizing acc with
  | nil => simp
  | cons t ts ih =>
    have ht := hts t List.mem_cons_self
    obtain ⟨-, hend, hcl, hop⟩ := isWordKind_facts t.kind ht.1
    rw [List.length_cons, ← Nat.add_assoc, List.cons_append]
    simp only [readValue, popToken_word ht, hend, hcl, hop, ht.not_tight, Bool.false_and,
      Bool.false_eq_true, if_false]
    rw [ih fun u hu => hts u (List.mem_cons_of_mem _ hu)]
    simp

/-- A space and the tokens of a word: the word is appended, after a space unless the value has
just begun. -/
theorem readValue_block {ts : List Token} {w : List Char} (h : WordTokens ts w) (F : Nat)
    (tight : Bool) (acc : List Char) (more : List Token) :
    readValue (F + ts.length) 0 tight acc (spaceToken :: ts ++ more) =
      readValue F 0 false (acc ++ (if tight then w else ' ' :: w)) more := by
  obtain ⟨hne, hts, rfl⟩ := h
  obtain ⟨t, ts, rfl⟩ := List.exists_cons_of_ne_nil hne
  have ht := hts t List.mem_cons_self
  obtain ⟨-, hend, hcl, hop⟩ := isWordKind_facts t.kind ht.1
  have hrest := readValue_wordTokens (fun u hu => hts u (List.mem_cons_of_mem _ hu)) F
  rw [List.length_cons, ← Nat.add_assoc, List.cons_append, List.cons_append]
  cases tight
  · simp only [readValue, popToken_space ht, hend, hcl, hop, ht.not_tight, Bool.false_and,
      Bool.false_eq_true, if_false, Bool.and_self, Bool.not_false, if_true]
    rw [hrest]
    simp
  · simp only [readValue, popToken_space ht, hend, hcl, hop, ht.not_tight, Bool.false_and,
      Bool.false_eq_true, if_false, Bool.not_true, Bool.and_false]
    rw [hrest]
    simp

theorem readValue_valueTokens {ts : List Token} {v : List Char} (h : ValueTokens ts v) :
    ∃ k ≤ ts.length, ∀ F tight acc more, readValue (F + k) 0 tight acc (ts ++ more) =
      readValue F 0 false (acc ++ (if tight then v else ' ' :: v)) more := by
  induction h with
  | @word ts w hw =>
    refine ⟨ts.length, by simp, fun F tight acc more => ?_⟩
    exact readValue_block hw F tight acc more
  | @cons ts us w v hw _ ih =>
    obtain ⟨k, hk, hread⟩ := ih
    refine ⟨ts.length + k, by simp; omega, fun F tight acc more => ?_⟩
    -- the first word, then the rest of the value after a space
    have hsplit : spaceToken :: ts ++ us ++ more = spaceToken :: ts ++ (us ++ more) := by simp
    rw [← Nat.add_assoc, Nat.add_right_comm, hsplit, readValue_block hw, hread]
    cases tight <;> simp

theorem readValue_semicolon (F : Nat) (tight : Bool) (acc : List Char) (more : List Token) :
    readValue (F + 1) 0 tight acc (⟨.semicolon, [';']⟩ :: more) = some (acc, .plain, more) := by
  simp +decide [readValue, popToken]

end ReadValue

/-! ## Property names -/

/-- The characters of a plain property name after its first: lower-case ASCII letters, digits
and `-`. -/
def isNameChar (c : Char) : Bool :=
  c.isLower || c.isDigit || c == '-'

/-- A plain property name: a lower-case ASCII letter, then name characters. -/
def IsPlainName (n : List Char) : Prop :=
  ∃ c n', n = c :: n' ∧ c.isLower = true ∧ ∀ d ∈ n', isNameChar d = true

theorem isPlainName_cons {c : Char} {n : List Char} :
    IsPlainName (c :: n) ↔ c.isLower = true ∧ ∀ d ∈ n, isNameChar d = true := by
  constructor
  · rintro ⟨c', n', h, hc, hn⟩
    obtain ⟨rfl, rfl⟩ := List.cons.inj h
    exact ⟨hc, hn⟩
  · rintro ⟨hc, hn⟩
    exact ⟨c, n, rfl, hc, hn⟩

instance : DecidablePred IsPlainName := fun n =>
  decidable_of_iff ((n.head?.any Char.isLower && n.tail.all isNameChar) = true) (by
    cases n with
    | nil => simp [IsPlainName]
    | cons c n => simp [isPlainName_cons])

theorem IsPlainName.ne_nil {n : List Char} (hn : IsPlainName n) : n ≠ [] := by
  obtain ⟨c, n', rfl, -⟩ := hn
  simp

theorem isWordChar_of_isNameChar {c : Char} (h : isNameChar c = true) : isWordChar c = true := by
  simp only [isNameChar, isWordChar, Char.isAlphanum, Char.isAlpha, Bool.or_eq_true] at h ⊢
  rcases h with (h | h) | h
  · exact .inl (.inl (.inl (.inl (.inl (.inr h)))))
  · exact .inl (.inl (.inl (.inl (.inr h))))
  · exact .inl (.inl (.inl (.inr h)))

theorem isNameChar_of_isLower {c : Char} (h : c.isLower = true) : isNameChar c = true := by
  simp [isNameChar, h]

theorem IsPlainName.isWordText {n : List Char} (hn : IsPlainName n) : IsWordText n := by
  obtain ⟨c, n', rfl, hc, hn'⟩ := hn
  intro d hd
  rcases List.mem_cons.1 hd with rfl | hd
  · exact isWordChar_of_isNameChar (isNameChar_of_isLower hc)
  · exact isWordChar_of_isNameChar (hn' d hd)

/-- What reading a name needs of its characters: each continues an identifier and has no other
case. -/
theorem isNameChar_facts {c : Char} (h : isNameChar c = true) :
    isIdentChar c = true ∧ readItem.asciiLower c = c ∧ Text.toLower c = c :=
  isWordChar_ascii (P := fun c => isNameChar c = true →
      isIdentChar c = true ∧ readItem.asciiLower c = c ∧ Text.toLower c = c)
    (by decide +kernel) (isWordChar_of_isNameChar h) h

/-- What reading a name needs of its first character: it starts an identifier and no number. -/
theorem isLower_facts {c : Char} (h : c.isLower = true) :
    isIdentStart c = true ∧ c.isDigit = false ∧ c ≠ '#' ∧ c ≠ '.' ∧ c ≠ '-' ∧ c ≠ '+' := by
  have hb : (isIdentStart c && !c.isDigit && c != '#' && c != '.' && c != '-' && c != '+') = true :=
    isWordChar_ascii (P := fun c => c.isLower = true →
        (isIdentStart c && !c.isDigit && c != '#' && c != '.' && c != '-' && c != '+') = true)
      (by decide +kernel) (isWordChar_of_isNameChar (isNameChar_of_isLower h)) h
  simp only [Bool.and_eq_true, Bool.not_eq_true', bne_iff_ne, ne_eq] at hb
  obtain ⟨⟨⟨⟨⟨h₁, h₂⟩, h₃⟩, h₄⟩, h₅⟩, h₆⟩ := hb
  exact ⟨h₁, h₂, h₃, h₄, h₅, h₆⟩

theorem takeWhile_dropWhile_of_forall {p : Char → Bool} {l : List Char}
    (h : ∀ x ∈ l, p x = true) : l.takeWhile p = l ∧ l.dropWhile p = [] := by
  induction l with
  | nil => simp
  | cons c l ih => simp [h c List.mem_cons_self, ih fun x hx => h x (List.mem_cons_of_mem _ hx)]

theorem readIdent_of_start {c : Char} {w s : List Char} (hc : isIdentStart c = true)
    (hdash : c ≠ '-') (hw : IsWordText w) (hs : Stops s) :
    readIdent (c :: (w ++ s)) = some (c :: w.takeWhile isIdentChar, w.dropWhile isIdentChar ++ s) := by
  unfold readIdent
  split
  · rename_i dash body hsplit
    split at hsplit
    · rename_i r hr
      exact absurd (List.cons.inj hr).1 hdash
    · obtain ⟨rfl, rfl⟩ := Prod.mk.inj hsplit
      simp [hc, readName_word hw hs]

theorem readNumber_of_letter {c : Char} {r : List Char} (hd : c.isDigit = false) (hplus : c ≠ '+')
    (hdash : c ≠ '-') (hdot : c ≠ '.') : readNumber (c :: r) = none := by
  have hsign : splitSign (c :: r) = ([], c :: r) := by
    unfold splitSign
    split
    · rename_i r' hr; exact absurd (List.cons.inj hr).1 hplus
    · rename_i r' hr; exact absurd (List.cons.inj hr).1 hdash
    · rfl
  have hfrac : readFraction [] (c :: r) = none := by
    unfold readFraction
    split
    · rename_i r' hr; exact absurd (List.cons.inj hr).1 hdot
    · rfl
  simp [readNumber, hsign, hd, hfrac]

/-- A plain name is read as one identifier token. -/
theorem nextToken_name {n s : List Char} (hn : IsPlainName n) (hs : Stops s) :
    nextToken (n ++ s) = some (⟨.ident, n⟩, s) := by
  obtain ⟨c, n', rfl, hc, hn'⟩ := hn
  obtain ⟨hstart, hdigit, hhash, hdot, hdash, hplus⟩ := isLower_facts hc
  have hw : IsWordText n' := fun d hd => isWordChar_of_isNameChar (hn' d hd)
  have hident : ∀ d ∈ n', isIdentChar d = true := fun d hd => (isNameChar_facts (hn' d hd)).1
  -- the name is one identifier, and nothing else reads it
  have hlike : readIdentLike (c :: (n' ++ s)) = some (.ident, c :: n', s) := by
    unfold readIdentLike
    rw [readIdent_of_start hstart hdash hw hs, (takeWhile_dropWhile_of_forall hident).1,
      (takeWhile_dropWhile_of_forall hident).2, List.nil_append]
    dsimp only
    split
    · rcases hs '(' rfl with h | h | h <;> cases h
    · rfl
  have hnum : readNumeric (c :: (n' ++ s)) = none := by
    simp [readNumeric, readNumber_of_letter hdigit hplus hdash hdot]
  have hrange : kinded .unicodeRange readUnicodeRange (c :: (n' ++ s)) = none := by
    have hname : IsWordText (c :: n') := IsPlainName.isWordText ⟨c, n', rfl, hc, hn'⟩
    have hnone : readUnicodeRange (c :: (n' ++ s)) = none := readUnicodeRange_word hname hs
    simp [kinded, hnone]
  simp only [List.cons_append, nextToken]
  rw [tokenAt_of_wordChar (isWordChar_of_isNameChar (isNameChar_of_isLower hc)),
    if_neg (by simpa using hhash), if_neg (by simpa using hdot), if_neg (by simpa using hdash)]
  split
  · simp [firstOf, hrange, hlike, Option.orElse]
  · simp [firstOf, hnum, hlike, Option.orElse]

/-! ## Declarations -/

section Declarations

theorem itemStart_ident (n : List Char) (rest : List Token) :
    itemStart (⟨.ident, n⟩ :: rest) = (some ⟨.ident, n⟩, rest) := by
  simp +decide [itemStart, popToken, itemStart.skipSemicolons, Token.isDelim]

theorem itemStart_space (ts : List Token) : itemStart (spaceToken :: ts) = itemStart ts := by
  simp +decide [itemStart, popToken]

theorem readItems_space (F : Nat) (ts : List Token) :
    readItems F .plain (spaceToken :: ts) = readItems F .plain ts := by
  cases F with
  | zero => rfl
  | succ F => simp only [readItems, itemStart_space]

theorem readItems_nil (F : Nat) : readItems F .plain [] = [] := by
  cases F with
  | zero => rfl
  | succ F => simp +decide [readItems, itemStart, popToken, itemStart.skipSemicolons]

theorem PlainValue.ends {v : List Char} (hv : PlainValue v) :
    v ≠ [] ∧ (∀ c ∈ v.head?, isWordChar c = true) ∧ ∀ c ∈ v.reverse.head?, isWordChar c = true := by
  induction hv with
  | @word w hne hw =>
    refine ⟨hne, fun c hc => hw c (List.mem_of_mem_head? hc), fun c hc => hw c ?_⟩
    exact List.mem_reverse.1 (List.mem_of_mem_head? hc)
  | @cons w v hne hw _ ih =>
    obtain ⟨hv, -, hlast⟩ := ih
    refine ⟨by simp, fun c hc => ?_, fun c hc => ?_⟩
    · obtain ⟨d, w', rfl⟩ := List.exists_cons_of_ne_nil hne
      simp only [List.cons_append, List.head?_cons, Option.mem_def, Option.some.injEq] at hc
      subst hc
      exact hw.cons.1
    · -- the last character is the last of the rest
      obtain ⟨d, v', hv'⟩ := List.exists_cons_of_ne_nil (List.reverse_ne_nil_iff.2 hv)
      have : (w ++ ' ' :: v).reverse.head? = v.reverse.head? := by
        simp [List.reverse_append, hv']
      exact hlast c (this ▸ hc)

theorem dropWhile_of_head {p : Char → Bool} {l : List Char} (h : ∀ c ∈ l.head?, p c = false) :
    l.dropWhile p = l := by
  cases l with
  | nil => rfl
  | cons c l => simp [h c rfl]

theorem textBlank_of_isWordChar {c : Char} (hc : isWordChar c = true) : Text.isBlank c = false :=
  isWordChar_ascii (P := fun c => Text.isBlank c = false) (by decide +kernel) hc

/-- A plain value has no blank at either end, so trimming keeps it. -/
theorem trimBlank_plain {v : List Char} (hv : PlainValue v) :
    Text.trimBlank (String.ofList v) = String.ofList v := by
  obtain ⟨-, hhead, hlast⟩ := hv.ends
  have hfront : v.dropWhile Text.isBlank = v :=
    dropWhile_of_head fun c hc => textBlank_of_isWordChar (hhead c hc)
  have hback : v.reverse.dropWhile Text.isBlank = v.reverse :=
    dropWhile_of_head fun c hc => textBlank_of_isWordChar (hlast c hc)
  simp only [Text.trimBlank, String.toList_ofList, hfront, hback, List.reverse_reverse]

/-- A plain name is its own lower-case form. -/
theorem lowerText_plain {n : List Char} (hn : IsPlainName n) :
    Text.lowerText (String.ofList (n.map readItem.asciiLower)) = String.ofList n := by
  obtain ⟨c, n', rfl, hc, hn'⟩ := hn
  have hall : ∀ d ∈ c :: n', readItem.asciiLower d = d ∧ Text.toLower d = d := by
    intro d hd
    rcases List.mem_cons.1 hd with rfl | hd
    · exact (isNameChar_facts (isNameChar_of_isLower hc)).2
    · exact (isNameChar_facts (hn' d hd)).2
  have hlower : (c :: n').map readItem.asciiLower = c :: n' :=
    (List.map_congr_left fun d hd => (hall d hd).1).trans (List.map_id _)
  have htext : (c :: n').map Text.toLower = c :: n' :=
    (List.map_congr_left fun d hd => (hall d hd).2).trans (List.map_id _)
  rw [hlower, Text.lowerText, String.toList_ofList, htext]

/-- The tokens of a declaration with a plain name and a plain value are read back as it. -/
theorem readItem_decl {n v : List Char} {vts : List Token} (hn : IsPlainName n) (hv : PlainValue v)
    (hvts : ValueTokens vts v) (more : List Token) :
    readItem ⟨.ident, n⟩ (⟨.colon, [':']⟩ :: vts ++ ⟨.semicolon, [';']⟩ :: more) =
      (.declaration (String.ofList n) (String.ofList v), .plain, more) := by
  obtain ⟨k, hk, hread⟩ := readValue_valueTokens hvts
  -- the value's tokens take at most their number of steps, and the `;` one more
  have hval : readValue ((vts ++ ⟨.semicolon, [';']⟩ :: more).length + 1) 0 true []
      (vts ++ ⟨.semicolon, [';']⟩ :: more) = some (v, .plain, more) := by
    have hfuel : (vts ++ ⟨.semicolon, [';']⟩ :: more).length + 1 =
        (vts.length - k + more.length + 1) + 1 + k := by
      simp only [List.length_append, List.length_cons]
      omega
    rw [hfuel, hread, if_pos rfl, List.nil_append, readValue_semicolon]
  have hpop : popToken (⟨.colon, [':']⟩ :: vts ++ ⟨.semicolon, [';']⟩ :: more) =
      (some ⟨.colon, [':']⟩, false, vts ++ ⟨.semicolon, [';']⟩ :: more) := by
    simp +decide [popToken]
  simp +decide only [readItem, hpop, hval, lowerText_plain hn, trimBlank_plain hv, if_true,
    if_false]

theorem readItems_decl {n v : List Char} {vts : List Token} (hn : IsPlainName n)
    (hv : PlainValue v) (hvts : ValueTokens vts v) (F : Nat) (more : List Token) :
    readItems (F + 1) .plain (⟨.ident, n⟩ :: ⟨.colon, [':']⟩ :: vts ++ ⟨.semicolon, [';']⟩ :: more) =
      (String.ofList n, String.ofList v) :: readItems F .plain more := by
  have hsplit : ⟨.ident, n⟩ :: ⟨.colon, [':']⟩ :: vts ++ ⟨.semicolon, [';']⟩ :: more =
      ⟨.ident, n⟩ :: (⟨.colon, [':']⟩ :: vts ++ ⟨.semicolon, [';']⟩ :: more) := rfl
  rw [hsplit]
  simp only [readItems, itemStart_ident, readItem_decl hn hv hvts]

/-- The tokens of one declaration `name: value;` and what follows it. -/
theorem tokenizeFrom_decl {n v tail : List Char} (hn : IsPlainName n) (hv : PlainValue v)
    (fuel : Nat) (hf : (n ++ ':' :: (' ' :: v ++ ';' :: tail)).length < fuel) :
    ∃ vts fuel', tail.length < fuel' ∧ ValueTokens vts v ∧
      tokenizeFrom fuel (n ++ ':' :: (' ' :: v ++ ';' :: tail)) =
        ⟨.ident, n⟩ :: ⟨.colon, [':']⟩ :: vts ++ ⟨.semicolon, [';']⟩ :: tokenizeFrom fuel' tail := by
  have hnlen : 0 < n.length := List.length_pos_iff.2 hn.ne_nil
  obtain ⟨f, rfl⟩ : ∃ f, fuel = f + 1 := ⟨fuel - 1, by simp at hf; omega⟩
  have hstop : Stops (':' :: (' ' :: v ++ ';' :: tail)) := fun c hc => by
    simp at hc; exact .inr (.inr hc.symm)
  obtain ⟨g, rfl⟩ : ∃ g, f = g + 1 := ⟨f - 1, by simp at hf; omega⟩
  obtain ⟨vts, fuel', hfuel', htoks, hvts⟩ := tokenizeFrom_value hv
    (s := ';' :: tail) (fun c hc => by simp at hc; exact .inr (.inl hc.symm)) g (by
      simp only [List.length_append, List.length_cons] at hf ⊢
      omega)
  obtain ⟨h, rfl⟩ : ∃ h, fuel' = h + 1 := ⟨fuel' - 1, by simp at hfuel'; omega⟩
  refine ⟨vts, h, by simpa using hfuel', hvts, ?_⟩
  have hcolon : nextToken (':' :: (' ' :: v ++ ';' :: tail)) =
      some (⟨.colon, [':']⟩, ' ' :: v ++ ';' :: tail) := rfl
  have hsemi : nextToken (';' :: tail) = some (⟨.semicolon, [';']⟩, tail) := rfl
  simp only [tokenizeFrom, nextToken_name hn hstop, hcolon, htoks, hsemi]
  rfl

/-- A space before a plain name is a token of its own. -/
theorem tokenizeFrom_space_name {n x : List Char} (hn : IsPlainName n) (fuel : Nat) :
    tokenizeFrom (fuel + 1) (' ' :: (n ++ x)) = spaceToken :: tokenizeFrom fuel (n ++ x) := by
  have hnext : nextToken (' ' :: (n ++ x)) = some (spaceToken, n ++ x) := by
    simp [nextToken, tokenAt_space hn.ne_nil hn.isWordText, spaceToken]
  simp only [tokenizeFrom, hnext]

theorem tokenizeFrom_nil (fuel : Nat) : tokenizeFrom fuel [] = [] := by
  cases fuel <;> rfl

/-- The text of a declaration `name: value`. -/
def declChars (d : List Char × List Char) : List Char :=
  d.1 ++ ':' :: ' ' :: d.2

/-- The text of declarations in a row: `n: v; m: w;`. -/
def declsText (ds : List (List Char × List Char)) : List Char :=
  [';', ' '].intercalate (ds.map declChars) ++ [';']

theorem declsText_singleton (d : List Char × List Char) :
    declsText [d] = d.1 ++ ':' :: (' ' :: d.2 ++ [';']) := by
  simp [declsText, declChars]

theorem declsText_cons_cons (d d' : List Char × List Char) (rest : List (List Char × List Char)) :
    declsText (d :: d' :: rest) = d.1 ++ ':' :: (' ' :: d.2 ++ ';' :: ' ' :: declsText (d' :: rest)) := by
  simp [declsText, declChars, List.intercalate_cons_cons]

theorem exists_declsText_cons (d : List Char × List Char) (rest : List (List Char × List Char)) :
    ∃ x, declsText (d :: rest) = d.1 ++ x := by
  cases rest with
  | nil => exact ⟨_, declsText_singleton d⟩
  | cons d' rest => exact ⟨_, declsText_cons_cons d d' rest⟩

/-- Declarations with plain names and values, written `n: v; m: w;`, are read back in order;
their tokens are at least as many as they are, which bounds the reading. -/
theorem readItems_decls (ds : List (List Char × List Char)) (hne : ds ≠ [])
    (hplain : ∀ d ∈ ds, IsPlainName d.1 ∧ PlainValue d.2) (fuel : Nat)
    (hf : (declsText ds).length < fuel) :
    ds.length ≤ (tokenizeFrom fuel (declsText ds)).length ∧
      ∀ F, ds.length < F →
        readItems F .plain (tokenizeFrom fuel (declsText ds)) =
          ds.map fun d => (String.ofList d.1, String.ofList d.2) := by
  induction ds generalizing fuel with
  | nil => exact absurd rfl hne
  | cons d rest ih =>
    obtain ⟨hn, hv⟩ := hplain d List.mem_cons_self
    cases rest with
    | nil =>
      -- the last declaration: its `;` ends the text
      rw [declsText_singleton] at hf ⊢
      obtain ⟨vts, fuel', -, hvts, htoks⟩ := tokenizeFrom_decl hn hv fuel hf
      rw [htoks, tokenizeFrom_nil]
      refine ⟨by simp, fun F hF => ?_⟩
      obtain ⟨G, rfl⟩ : ∃ G, F = G + 1 := ⟨F - 1, by simp at hF; omega⟩
      rw [readItems_decl hn hv hvts, readItems_nil]
      rfl
    | cons d' rest =>
      -- a declaration, then `; ` and the others
      have hn' := (hplain d' (by simp)).1
      rw [declsText_cons_cons] at hf ⊢
      obtain ⟨vts, fuel', hfuel', hvts, htoks⟩ := tokenizeFrom_decl hn hv fuel hf
      obtain ⟨h, rfl⟩ : ∃ h, fuel' = h + 1 := ⟨fuel' - 1, by simp at hfuel'; omega⟩
      obtain ⟨hlen, hread⟩ := ih (by simp) (fun x hx => hplain x (List.mem_cons_of_mem _ hx)) h
        (by simpa using hfuel')
      -- the next declaration starts with its name, so the space before it is one token
      obtain ⟨x, hx⟩ := exists_declsText_cons d' rest
      rw [htoks, hx, tokenizeFrom_space_name hn', ← hx]
      refine ⟨?_, fun F hF => ?_⟩
      · simp only [List.length_cons, List.length_append] at hlen ⊢
        omega
      · obtain ⟨G, rfl⟩ : ∃ G, F = G + 1 := ⟨F - 1, by simp at hF; omega⟩
        rw [readItems_decl hn hv hvts, readItems_space, hread G (by simpa using hF)]
        rfl

end Declarations

/-! ## Reading back a style -/

section RoundTrip

open Text (isAllBlank)

theorem render_toList {ds : List (List Char × List Char)} (hne : ds ≠ []) :
    (InlineStyle.render ⟨ds.map fun d => (String.ofList d.1, String.ofList d.2)⟩).toList =
      declsText ds := by
  obtain ⟨d, rest, rfl⟩ := List.exists_cons_of_ne_nil hne
  have hdecl : ∀ e : List Char × List Char,
      (String.ofList e.1 ++ ": " ++ String.ofList e.2).toList = declChars e := by
    intro e
    simp [declChars]
  simp only [InlineStyle.render, List.map_cons]
  rw [String.toList_append, String.toList_intercalate]
  simp only [List.map_cons, List.map_map, Function.comp_def, hdecl]
  rfl

/-- The declarations read from the text of plain declarations are those declarations. -/
theorem readDeclarations_decls {ds : List (List Char × List Char)} (hne : ds ≠ [])
    (hplain : ∀ d ∈ ds, IsPlainName d.1 ∧ PlainValue d.2) :
    readDeclarations (InlineStyle.render ⟨ds.map fun d => (String.ofList d.1, String.ofList d.2)⟩) =
      ds.map fun d => (String.ofList d.1, String.ofList d.2) := by
  have htext := render_toList hne
  obtain ⟨d, rest, rfl⟩ := List.exists_cons_of_ne_nil hne
  -- the text starts with the first name, whose first letter is not blank
  obtain ⟨c, n', hn, hc, -⟩ := (hplain d List.mem_cons_self).1
  have hblank : isAllBlank
      (InlineStyle.render ⟨(d :: rest).map fun d => (String.ofList d.1, String.ofList d.2)⟩) = false := by
    obtain ⟨x, hx⟩ := exists_declsText_cons d rest
    unfold isAllBlank
    rw [htext, hx, hn]
    simp only [List.cons_append, List.all_cons, Bool.false_and,
      textBlank_of_isWordChar (isWordChar_of_isNameChar (isNameChar_of_isLower hc))]
  unfold readDeclarations
  simp only [hblank, Bool.false_eq_true, if_false]
  unfold tokenize
  rw [← String.length_toList, htext]
  obtain ⟨hlen, hread⟩ := readItems_decls (d :: rest) hne hplain _ (Nat.lt_add_one _)
  exact hread _ (by omega)

end RoundTrip

namespace InlineStyle

open Text (trimBlank)

theorem set_fresh {s : InlineStyle} {p v : String} (hp : ∀ d ∈ s.decls, d.1 ≠ p)
    (hv : trimBlank v = v) (hne : v ≠ "") : s.set p v = ⟨s.decls ++ [(p, v)]⟩ := by
  have hany : s.decls.any (·.1 == p) = false := by simpa using hp
  have hempty : v.isEmpty = false := by simpa [String.isEmpty_iff] using hne
  simp [set, hany, hv, hempty]

/-- Setting properties of new names, each to a trimmed non-empty value, appends them in turn. -/
theorem foldl_set_fresh (L : List (String × String)) (s : InlineStyle)
    (hnodup : ((s.decls ++ L).map Prod.fst).Nodup)
    (hval : ∀ d ∈ L, trimBlank d.2 = d.2 ∧ d.2 ≠ "") :
    L.foldl (fun s d => s.set d.1 d.2) s = ⟨s.decls ++ L⟩ := by
  induction L generalizing s with
  | nil => simp
  | cons d rest ih =>
    -- the first name is new, so setting it appends it
    have hfresh : ∀ e ∈ s.decls, e.1 ≠ d.1 := by
      intro e he heq
      rw [List.map_append, List.nodup_append] at hnodup
      exact hnodup.2.2 _ (List.mem_map_of_mem he) _ (by simp) heq
    obtain ⟨hv, hne⟩ := hval d List.mem_cons_self
    rw [List.foldl_cons, set_fresh hfresh hv hne, ih]
    · simp
    · simpa using hnodup
    · exact fun e he => hval e (List.mem_cons_of_mem _ he)

/-- A plain style: plain names, none twice, each with a plain value. -/
structure Plain (s : InlineStyle) : Prop where
  nodup : (s.decls.map Prod.fst).Nodup
  name : ∀ d ∈ s.decls, IsPlainName d.1.toList
  value : ∀ d ∈ s.decls, PlainValue d.2.toList

/-- The text of a plain style reads back as the style. -/
theorem ofAttr_render {s : InlineStyle} (h : s.Plain) : ofAttr s.render = s := by
  obtain ⟨decls⟩ := s
  cases decls with
  | nil => rfl
  | cons e rest =>
    have hds : ((e :: rest).map fun d => (d.1.toList, d.2.toList)).map
        (fun d => (String.ofList d.1, String.ofList d.2)) = e :: rest := by
      simp [Function.comp_def]
    have hplain : ∀ d ∈ (e :: rest).map (fun d => (d.1.toList, d.2.toList)),
        IsPlainName d.1 ∧ PlainValue d.2 := by
      simp only [List.mem_map]
      rintro _ ⟨d, hd, rfl⟩
      exact ⟨h.name d hd, h.value d hd⟩
    unfold ofAttr
    rw [← hds, readDeclarations_decls (by simp) hplain, hds]
    -- the declarations read are set in turn from the empty style, each name new
    rw [foldl_set_fresh _ empty (by simpa [empty] using h.nodup)]
    · rfl
    · intro d hd
      have hv := h.value d hd
      refine ⟨by simpa using trimBlank_plain hv, fun h0 => hv.ends.1 ?_⟩
      simp [h0]

theorem Plain.filter {s : InlineStyle} (h : s.Plain) (p : String) :
    Plain ⟨s.decls.filter (·.1 != p)⟩ :=
  ⟨(List.filter_sublist.map _).nodup h.nodup,
    fun d hd => h.name d (List.mem_filter.1 hd).1, fun d hd => h.value d (List.mem_filter.1 hd).1⟩

theorem Plain.replace {s : InlineStyle} (h : s.Plain) (p : String) {v : String}
    (hv : PlainValue v.toList) : Plain ⟨s.decls.map fun d => if d.1 == p then (d.1, v) else d⟩ := by
  -- the names stay, and each value is the old one or `v`
  have hname : ∀ e : String × String, (if e.1 == p then (e.1, v) else e).1 = e.1 := by
    intro e
    split <;> rfl
  refine ⟨?_, fun d hd => ?_, fun d hd => ?_⟩
  · have hnames : (s.decls.map fun d => if d.1 == p then (d.1, v) else d).map Prod.fst =
        s.decls.map Prod.fst := by
      rw [List.map_map]
      exact List.map_congr_left fun e _ => hname e
    exact hnames ▸ h.nodup
  · obtain ⟨e, he, rfl⟩ := List.mem_map.1 hd
    rw [hname]
    exact h.name e he
  · obtain ⟨e, he, rfl⟩ := List.mem_map.1 hd
    split
    · exact hv
    · exact h.value e he

theorem Plain.append {s : InlineStyle} (h : s.Plain) {p v : String} (hp : IsPlainName p.toList)
    (hfresh : p ∉ s.decls.map Prod.fst) (hv : PlainValue v.toList) :
    Plain ⟨s.decls ++ [(p, v)]⟩ := by
  refine ⟨?_, fun d hd => ?_, fun d hd => ?_⟩
  · rw [List.map_append, List.nodup_append]
    exact ⟨h.nodup, by simp, by simpa using fun a ha => ne_of_mem_of_not_mem ha hfresh⟩
  · rcases List.mem_append.1 hd with hd | hd
    · exact h.name d hd
    · obtain rfl := List.mem_singleton.1 hd
      exact hp
  · rcases List.mem_append.1 hd with hd | hd
    · exact h.value d hd
    · obtain rfl := List.mem_singleton.1 hd
      exact hv

/-- Setting a plain name to a value that trims to a plain value or to nothing keeps a style
plain: the property is removed, replaced in place or appended. -/
theorem Plain.set {s : InlineStyle} (h : s.Plain) {p v : String} (hp : IsPlainName p.toList)
    (hv : trimBlank v = "" ∨ PlainValue (trimBlank v).toList) : (s.set p v).Plain := by
  unfold InlineStyle.set
  dsimp only
  split
  · split
    · exact h.filter p
    · rename_i hempty
      exact h.replace p (hv.resolve_left fun h0 => by simp [h0] at hempty)
  · split
    · exact h
    · rename_i hany hempty
      exact h.append hp (by simpa using hany) (hv.resolve_left fun h0 => by simp [h0] at hempty)

end InlineStyle

end UtilityStyles.Css

namespace UtilityStyles

open UtilityStyles.Css (InlineStyle IsPlainName PlainValue)
open UtilityStyles.Text (trimBlank)

namespace Page

theorem style_get_setStyle (p : Page) (i : Nat) (prop v : String) (j : Nat) :
    ((p.setStyle i prop v).get j).style =
      if j = i ∧ i < p.size then (p.get i).style.set prop v else (p.get j).style := by
  unfold setStyle
  split
  · rename_i h
    simp only [get, Array.getD, Array.size_set]
    by_cases hj : j = i
    · subst hj
      simp [h, size]
    · simp [hj, Array.getElem_set]
      grind
  · rename_i h
    have : ¬ (j = i ∧ i < p.size) := fun hj => h hj.2
    rw [if_neg this]

/-- A page whose elements all have plain styles. -/
def PlainStyles (p : Page) : Prop := ∀ i, (p.get i).style.Plain

/-- A plain write: a plain property name, and a value that trims to a plain value or to
nothing. -/
def PlainWrite (w : String × String) : Prop :=
  IsPlainName w.1.toList ∧ (trimBlank w.2 = "" ∨ PlainValue (trimBlank w.2).toList)

theorem PlainStyles.setStyle {p : Page} (h : p.PlainStyles) (i : Nat) {prop v : String}
    (hw : PlainWrite (prop, v)) : (p.setStyle i prop v).PlainStyles := by
  intro j
  rw [style_get_setStyle]
  split
  · exact (h i).set hw.1 hw.2
  · exact h j

theorem PlainStyles.setAll {p : Page} (h : p.PlainStyles) (el : Nat) {as : List (String × String)}
    (hw : ∀ a ∈ as, PlainWrite a) : (p.setAll el as).PlainStyles := by
  induction as generalizing p with
  | nil => exact h
  | cons a rest ih =>
    exact ih (h.setStyle el (hw a List.mem_cons_self)) fun b hb => hw b (List.mem_cons_of_mem _ hb)

theorem PlainStyles.setEach {p : Page} (h : p.PlainStyles)
    {writes : List (Nat × List (String × String))} (hw : ∀ w ∈ writes, ∀ a ∈ w.2, PlainWrite a) :
    (p.setEach writes).PlainStyles := by
  induction writes generalizing p with
  | nil => exact h
  | cons w rest ih =>
    exact ih (h.setAll w.1 (hw w List.mem_cons_self)) fun x hx => hw x (List.mem_cons_of_mem _ hx)

end Page

end UtilityStyles
