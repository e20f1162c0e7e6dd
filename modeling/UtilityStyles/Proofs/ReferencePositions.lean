import UtilityStyles.Lint.Reference
import UtilityStyles.Proofs.WordTokens
/-!
# Where class references stand in a line

A line's class references come from its class attributes, found left to right: the leftmost
attribute (the word `class` at the start of the line or after a separator, then `=` with
separators around it, then a value in double or single quotes), then the attributes after its
closing quote (`Found`). Each blank-separated name of a value gives one reference, in order, at
the byte column where that name starts (`Spans`).

So a reference's column points at its own name: the line holds the name at byte `column - 1`,
also where the same text stands earlier in the value (`ab b`), and whatever blanks, ASCII or
not, stand between the names.

## Main definitions

* `IsAttrLead`, `StartsWithAttr`, `AttrSplit` : a class attribute, at the start of a text or
  after a separator.
* `Found` : the attributes of a line, found left to right.
* `Spans` : the names of a value with the byte offsets where they start.

## Main statements

* `attributeAt_eq_some_iff` : reading one attribute.
* `found_attributeValues` : the attributes the scan of a line finds.
* `spans_namesAt`, `Spans.names_eq_fields` : the names of a value and where they start.
* `class_references_at_columns` : the references of a line.
-/

namespace UtilityStyles.Lint

open UtilityStyles.Text (isBlank fields fieldsFrom)

/-! ## Bytes -/

theorem foldl_utf8Size (cs : List Char) (k : Nat) :
    cs.foldl (fun n c => n + c.utf8Size) k = k + byteSize cs := by
  induction cs generalizing k with
  | nil => rfl
  | cons c cs ih =>
    show cs.foldl _ (k + c.utf8Size) = k + cs.foldl _ (0 + c.utf8Size)
    rw [ih, ih]
    omega

@[simp] theorem byteSize_nil : byteSize [] = 0 := rfl

@[simp] theorem byteSize_cons (c : Char) (cs : List Char) :
    byteSize (c :: cs) = c.utf8Size + byteSize cs := by
  simp only [byteSize, List.foldl_cons, Nat.zero_add]
  exact foldl_utf8Size cs _

@[simp] theorem byteSize_append (a b : List Char) : byteSize (a ++ b) = byteSize a + byteSize b := by
  induction a with
  | nil => simp
  | cons c a ih => simp [ih, Nat.add_assoc]

/-- `byteSize` counts the bytes of the text the characters make. -/
theorem byteSize_eq_utf8ByteSize (cs : List Char) : byteSize cs = (String.ofList cs).utf8ByteSize := by
  induction cs with
  | nil => simp
  | cons c cs ih =>
    rw [byteSize_cons, ih, ← List.singleton_append, String.ofList_append,
      String.utf8ByteSize_append, ← String.singleton_eq_ofList, String.utf8ByteSize_singleton]

/-! ## One attribute -/

/-- The text of a class attribute before its value: the word `class`, separators, `=`,
separators and the opening quote `q`, which is a double or a single quote. -/
def IsAttrLead (lead : List Char) (q : Char) : Prop :=
  (q = '"' ∨ q = '\'') ∧ ∃ s₁ s₂ : List Char, (∀ c ∈ s₁, isSeparator c = true) ∧
    (∀ c ∈ s₂, isSeparator c = true) ∧ lead = ['c', 'l', 'a', 's', 's'] ++ s₁ ++ '=' :: s₂ ++ [q]

/-- `cs` starts with a class attribute: the text `lead` before its value, the value, which holds
no closing quote, the closing quote, and `rest` after it. -/
def StartsWithAttr (cs lead value rest : List Char) : Prop :=
  ∃ q, IsAttrLead lead q ∧ q ∉ value ∧ cs = lead ++ value ++ q :: rest

/-- Skipping the characters of a class, up to one outside it. -/
theorem eq_of_dropWhile_eq_cons {p : Char → Bool} {l r : List Char} {c : Char}
    (h : l.dropWhile p = c :: r) : ∃ s, (∀ x ∈ s, p x = true) ∧ l = s ++ c :: r ∧ p c = false := by
  refine ⟨l.takeWhile p, fun x hx => List.mem_takeWhile_imp hx,
    by rw [← h, List.takeWhile_append_dropWhile], ?_⟩
  have := List.head_dropWhile_not p (l := l) (by simp [h])
  simpa [h] using this

/-- The text up to the first `q`, and the `q` after it. -/
theorem eq_of_takeWhile_ne {q x : Char} {l after : List Char}
    (h : l.drop (l.takeWhile (· != q)).length = x :: after) :
    x = q ∧ q ∉ l.takeWhile (· != q) ∧ l = l.takeWhile (· != q) ++ q :: after := by
  rw [Css.drop_length_takeWhile] at h
  have hl : l = l.takeWhile (· != q) ++ x :: after := by rw [← h, List.takeWhile_append_dropWhile]
  have hx : x = q := by simpa [h] using List.head_dropWhile_not (· != q) (l := l) (by simp [h])
  subst hx
  exact ⟨rfl, fun hm => by simpa using List.mem_takeWhile_imp hm, hl⟩

theorem takeWhile_ne_append {q : Char} {value rest : List Char} (hv : q ∉ value) :
    (value ++ q :: rest).takeWhile (· != q) = value := by
  rw [List.takeWhile_append_of_pos fun c hc => by simpa using ne_of_mem_of_not_mem hc hv]
  simp

theorem attributeAt_of_startsWith {cs lead value rest : List Char}
    (h : StartsWithAttr cs lead value rest) : attributeAt cs = some (byteSize lead, value, rest) := by
  obtain ⟨q, ⟨hq, s₁, s₂, h₁, h₂, rfl⟩, hv, rfl⟩ := h
  have hsep : isSeparator q = false := by rcases hq with rfl | rfl <;> rfl
  have hquote : (q == '"' || q == '\'') = true := by rcases hq with rfl | rfl <;> rfl
  have hsize : q.utf8Size = 1 := by rcases hq with rfl | rfl <;> rfl
  have hname : (s₁ ++ '=' :: (s₂ ++ q :: (value ++ q :: rest))).dropWhile isSeparator =
      '=' :: (s₂ ++ q :: (value ++ q :: rest)) := by
    rw [List.dropWhile_append_of_pos h₁, List.dropWhile_cons_of_neg (by simp [isSeparator])]
  have heq : (s₂ ++ q :: (value ++ q :: rest)).dropWhile isSeparator = q :: (value ++ q :: rest) := by
    rw [List.dropWhile_append_of_pos h₂, List.dropWhile_cons_of_neg (by simp [hsep])]
  -- the value starts after the text before the opening quote
  have hsplit : 'c' :: 'l' :: 'a' :: 's' :: 's' :: (s₁ ++ '=' :: (s₂ ++ q :: (value ++ q :: rest))) =
      ('c' :: 'l' :: 'a' :: 's' :: 's' :: (s₁ ++ '=' :: s₂)) ++ q :: (value ++ q :: rest) := by
    simp
  simp only [List.append_assoc, List.cons_append, List.nil_append]
  unfold attributeAt
  simp only [hname, heq, hquote, if_true, takeWhile_ne_append hv, List.drop_left']
  rw [hsplit, List.take_left' (by simp; omega)]
  simp [hsize]
  omega

theorem startsWith_of_attributeAt {cs value rest : List Char} {v : Nat}
    (h : attributeAt cs = some (v, value, rest)) :
    ∃ lead, StartsWithAttr cs lead value rest ∧ v = byteSize lead := by
  unfold attributeAt at h
  split at h
  · rename_i r
    dsimp only at h
    split at h
    · rename_i afterEq hname
      split at h
      · rename_i q body hvs
        split at h
        · rename_i hq
          split at h
          · -- the separators before and after `=`, then the value up to the closing quote
            rename_i x after hx
            obtain ⟨s₁, h₁, rfl, -⟩ := eq_of_dropWhile_eq_cons hname
            obtain ⟨s₂, h₂, rfl, -⟩ := eq_of_dropWhile_eq_cons hvs
            obtain ⟨hxq, hv, hbody⟩ := eq_of_takeWhile_ne hx
            subst x
            generalize body.takeWhile (· != q) = val at h hv hbody
            subst hbody
            simp only [Option.some.injEq, Prod.mk.injEq] at h
            obtain ⟨rfl, rfl, rfl⟩ := h
            have hq' : q = '"' ∨ q = '\'' := by simpa using hq
            have hsize : q.utf8Size = 1 := by rcases hq' with rfl | rfl <;> rfl
            refine ⟨['c', 'l', 'a', 's', 's'] ++ s₁ ++ '=' :: s₂ ++ [q],
              ⟨q, ⟨hq', s₁, s₂, h₁, h₂, rfl⟩, hv, by simp⟩, ?_⟩
            have hsplit : 'c' :: 'l' :: 'a' :: 's' :: 's' :: (s₁ ++ '=' :: (s₂ ++ q :: (val ++ q :: after))) =
                ('c' :: 'l' :: 'a' :: 's' :: 's' :: (s₁ ++ '=' :: s₂)) ++ q :: (val ++ q :: after) := by
              simp
            rw [hvs, hsplit, List.take_left' (by simp; omega)]
            simp [hsize]
            omega
          · cases h
        · cases h
      · cases h
    · cases h
  · cases h

/-- Reading a class attribute at the start of a text gives the byte offset of its value, the
value and what follows the closing quote, exactly when the text starts with one. -/
theorem attributeAt_eq_some_iff {cs value rest : List Char} {v : Nat} :
    attributeAt cs = some (v, value, rest) ↔
      ∃ lead, StartsWithAttr cs lead value rest ∧ v = byteSize lead := by
  constructor
  · exact startsWith_of_attributeAt
  · rintro ⟨lead, h, rfl⟩
    exact attributeAt_of_startsWith h

theorem attributeAt_eq_none_iff {cs : List Char} :
    attributeAt cs = none ↔ ∀ lead value rest, ¬ StartsWithAttr cs lead value rest := by
  constructor
  · intro h lead value rest hs
    rw [attributeAt_of_startsWith hs] at h
    cases h
  · intro h
    cases ha : attributeAt cs with
    | none => rfl
    | some x =>
      obtain ⟨v, value, rest⟩ := x
      obtain ⟨lead, hs, -⟩ := startsWith_of_attributeAt ha
      exact absurd hs (h lead value rest)

theorem StartsWithAttr.ne_nil {cs lead value rest : List Char} (h : StartsWithAttr cs lead value rest) :
    cs ≠ [] := by
  obtain ⟨q, -, -, rfl⟩ := h
  simp

theorem StartsWithAttr.length_lt {cs lead value rest : List Char}
    (h : StartsWithAttr cs lead value rest) : rest.length < cs.length := by
  obtain ⟨q, -, -, rfl⟩ := h
  simp only [List.length_append, List.length_cons]
  omega

/-! ## The attributes of a line -/

/-- A class attribute in `cs` after the text `pre`: at the start of the line (where `atStart`
says `cs` starts the line) or after a separator. -/
def AttrSplit (atStart : Bool) (cs pre lead value rest : List Char) : Prop :=
  (pre = [] ∧ atStart = true ∨ ∃ c ∈ pre.getLast?, isSeparator c = true) ∧
    ∃ after, cs = pre ++ after ∧ StartsWithAttr after lead value rest

/-- The class attributes of `cs`, found left to right, each given by the byte offset of its value
in the line and the value, where `cs` starts at byte `off` of the line: none when no attribute
stands in `cs`; otherwise the leftmost one, then those after its closing quote. -/
inductive Found : Bool → List Char → Nat → List (Nat × List Char) → Prop
  | none {atStart : Bool} {cs : List Char} {off : Nat} :
      (∀ pre lead value rest, ¬ AttrSplit atStart cs pre lead value rest) → Found atStart cs off []
  | first {atStart : Bool} {cs pre lead value rest : List Char} {off : Nat}
      {vs : List (Nat × List Char)} :
      AttrSplit atStart cs pre lead value rest →
      (∀ pre' lead' value' rest', AttrSplit atStart cs pre' lead' value' rest' →
        pre.length ≤ pre'.length) →
      Found false rest (off + byteSize (pre ++ lead ++ value) + 1) vs →
      Found atStart cs off ((off + byteSize (pre ++ lead), value) :: vs)

/-- Where an attribute can stand in a text that starts with `c`: at its start, after `c` when `c`
is a separator, or further on, where the start of the line is behind. -/
theorem attrSplit_cons_iff {atStart : Bool} {c : Char} {cs pre lead value rest : List Char} :
    AttrSplit atStart (c :: cs) pre lead value rest ↔
      (pre = [] ∧ atStart = true ∧ StartsWithAttr (c :: cs) lead value rest) ∨
      (pre = [c] ∧ isSeparator c = true ∧ StartsWithAttr cs lead value rest) ∨
      ∃ pre', pre = c :: pre' ∧ AttrSplit false cs pre' lead value rest := by
  constructor
  · rintro ⟨hpre, after, hcs, hs⟩
    rcases pre with _ | ⟨d, pre'⟩
    · simp only [List.getLast?_nil, Option.mem_def, reduceCtorEq, false_and, exists_const,
        or_false, true_and] at hpre
      rw [List.nil_append] at hcs
      subst hcs
      exact .inl ⟨rfl, hpre, hs⟩
    · simp only [List.cons_append, List.cons.injEq] at hcs
      obtain ⟨rfl, rfl⟩ := hcs
      rcases pre' with _ | ⟨e, pre''⟩
      · simp only [List.getLast?_singleton, Option.mem_def, Option.some.injEq, exists_eq_left',
          reduceCtorEq, false_and, false_or] at hpre
        exact .inr (.inl ⟨rfl, hpre, by simpa using hs⟩)
      · refine .inr (.inr ⟨e :: pre'', rfl, ?_, after, rfl, hs⟩)
        simpa [List.getLast?_cons_cons] using hpre
  · rintro (⟨rfl, hstart, hs⟩ | ⟨rfl, hsep, hs⟩ | ⟨pre', rfl, hpre, after, rfl, hs⟩)
    · exact ⟨.inl ⟨rfl, hstart⟩, _, rfl, hs⟩
    · exact ⟨.inr ⟨c, by simp, hsep⟩, cs, rfl, hs⟩
    · refine ⟨.inr ?_, after, rfl, hs⟩
      rcases hpre with ⟨rfl, h⟩ | ⟨d, hd, hsep⟩
      · cases h
      · rcases pre' with _ | ⟨e, pre''⟩
        · simp at hd
        · exact ⟨d, by simpa [List.getLast?_cons_cons] using hd, hsep⟩

/-- Where no attribute starts at the first character, nor after it, the attributes of a text are
those of the rest, one character further. -/
theorem Found.cons {atStart : Bool} {c : Char} {cs : List Char} {off : Nat}
    {vs : List (Nat × List Char)}
    (h₀ : atStart = true → ∀ lead value rest, ¬ StartsWithAttr (c :: cs) lead value rest)
    (h₁ : isSeparator c = true → ∀ lead value rest, ¬ StartsWithAttr cs lead value rest)
    (h : Found false cs (off + c.utf8Size) vs) : Found atStart (c :: cs) off vs := by
  have hshift : ∀ pre lead value rest, AttrSplit atStart (c :: cs) pre lead value rest →
      ∃ pre', pre = c :: pre' ∧ AttrSplit false cs pre' lead value rest := by
    intro pre lead value rest hs
    rcases attrSplit_cons_iff.1 hs with ⟨-, hst, hs'⟩ | ⟨-, hsep, hs'⟩ | hs'
    · exact absurd hs' (h₀ hst _ _ _)
    · exact absurd hs' (h₁ hsep _ _ _)
    · exact hs'
  cases h with
  | none hno =>
    refine .none fun pre lead value rest hs => ?_
    obtain ⟨pre', -, hs'⟩ := hshift pre lead value rest hs
    exact hno pre' lead value rest hs'
  | @first _ _ pre lead value rest _ vs' hs hleft hrest =>
    have e₁ : off + c.utf8Size + byteSize (pre ++ lead) = off + byteSize (c :: pre ++ lead) := by
      simp [Nat.add_assoc]
    have e₂ : off + c.utf8Size + byteSize (pre ++ lead ++ value) + 1 =
        off + byteSize (c :: pre ++ lead ++ value) + 1 := by
      simp [Nat.add_assoc]
    rw [e₁]
    rw [e₂] at hrest
    refine .first (attrSplit_cons_iff.2 (.inr (.inr ⟨pre, rfl, hs⟩)))
      (fun pre' lead' value' rest' hs' => ?_) hrest
    obtain ⟨pre'', rfl, hs''⟩ := hshift _ _ _ _ hs'
    simpa using hleft _ _ _ _ hs''

theorem attributeValuesFuel_start {fuel : Nat} {c : Char} {cs value after : List Char}
    {off v : Nat} (h : attributeAt (c :: cs) = some (v, value, after)) :
    attributeValuesFuel (fuel + 1) (c :: cs) true off =
      (off + v, value) :: attributeValuesFuel fuel after false (off + v + byteSize value + 1) := by
  simp [attributeValuesFuel, h]

theorem attributeValuesFuel_separator {fuel : Nat} {atStart : Bool} {c : Char}
    {cs value after : List Char} {off v : Nat}
    (h₀ : atStart = true → attributeAt (c :: cs) = none) (hc : isSeparator c = true)
    (h : attributeAt cs = some (v, value, after)) :
    attributeValuesFuel (fuel + 1) (c :: cs) atStart off =
      (off + c.utf8Size + v, value) ::
        attributeValuesFuel fuel after false (off + c.utf8Size + v + byteSize value + 1) := by
  cases atStart <;> simp_all [attributeValuesFuel]

theorem attributeValuesFuel_skip {fuel : Nat} {atStart : Bool} {c : Char} {cs : List Char}
    {off : Nat} (h₀ : atStart = true → attributeAt (c :: cs) = none)
    (h₁ : isSeparator c = true → attributeAt cs = none) :
    attributeValuesFuel (fuel + 1) (c :: cs) atStart off =
      attributeValuesFuel fuel cs false (off + c.utf8Size) := by
  cases atStart <;> cases hc : isSeparator c <;> simp_all [attributeValuesFuel]

/-- The scan of a text finds its attributes left to right, given a step for each character. -/
theorem found_attributeValuesFuel (fuel : Nat) (cs : List Char) (atStart : Bool) (off : Nat)
    (h : cs.length < fuel) : Found atStart cs off (attributeValuesFuel fuel cs atStart off) := by
  induction fuel generalizing cs atStart off with
  | zero => exact absurd h (Nat.not_lt_zero _)
  | succ f ih =>
    cases cs with
    | nil =>
      refine .none fun pre lead value rest ⟨_, after, hcs, hs⟩ => hs.ne_nil ?_
      exact (List.append_eq_nil_iff.1 hcs.symm).2
    | cons c cs =>
      have hlt : ∀ {lead value rest}, StartsWithAttr cs lead value rest → rest.length < f := by
        intro lead value rest hs
        have := hs.length_lt
        simp only [List.length_cons] at h
        omega
      -- past the start of the line: an attribute after a separator, or none at this character
      have hlater : (atStart = true → attributeAt (c :: cs) = none) →
          Found atStart (c :: cs) off (attributeValuesFuel (f + 1) (c :: cs) atStart off) := by
        intro h₀
        have h₀' : atStart = true → ∀ lead value rest, ¬ StartsWithAttr (c :: cs) lead value rest :=
          fun hst => attributeAt_eq_none_iff.1 (h₀ hst)
        cases hB : attributeAt cs with
        | some x =>
          obtain ⟨v, value, after⟩ := x
          by_cases hc : isSeparator c = true
          · rw [attributeValuesFuel_separator h₀ hc hB]
            obtain ⟨lead, hs, rfl⟩ := startsWith_of_attributeAt hB
            have e₁ : off + c.utf8Size + byteSize lead = off + byteSize ([c] ++ lead) := by
              simp [Nat.add_assoc]
            have e₂ : off + c.utf8Size + byteSize lead + byteSize value + 1 =
                off + byteSize ([c] ++ lead ++ value) + 1 := by
              simp [Nat.add_assoc]
            rw [e₂, e₁]
            refine .first ⟨.inr ⟨c, by simp, hc⟩, cs, rfl, hs⟩ (fun pre' lead' value' rest' hs' => ?_)
              (ih _ _ _ (hlt hs))
            rcases attrSplit_cons_iff.1 hs' with ⟨-, hst, hs''⟩ | ⟨rfl, -⟩ | ⟨pre'', rfl, -⟩
            · exact absurd hs'' (h₀' hst _ _ _)
            · simp
            · simp
          · rw [attributeValuesFuel_skip h₀ (fun hc' => absurd hc' hc)]
            exact Found.cons h₀' (fun hc' => absurd hc' hc) (ih _ _ _ (by simp at h; omega))
        | none =>
          rw [attributeValuesFuel_skip h₀ (fun _ => hB)]
          exact Found.cons h₀' (fun _ => attributeAt_eq_none_iff.1 hB)
            (ih _ _ _ (by simp at h; omega))
      cases atStart with
      | false => exact hlater (fun h => absurd h (by simp))
      | true =>
        cases hA : attributeAt (c :: cs) with
        | none => exact hlater fun _ => hA
        | some x =>
          -- an attribute at the start of the line
          obtain ⟨v, value, after⟩ := x
          rw [attributeValuesFuel_start hA]
          obtain ⟨lead, hs, rfl⟩ := startsWith_of_attributeAt hA
          have e : off + byteSize lead + byteSize value + 1 = off + byteSize ([] ++ lead ++ value) + 1 := by
            simp [Nat.add_assoc]
          rw [e, show off + byteSize lead = off + byteSize ([] ++ lead) by simp]
          refine .first ⟨.inl ⟨rfl, rfl⟩, _, rfl, hs⟩ (fun _ _ _ _ _ => Nat.zero_le _) (ih _ _ _ ?_)
          have := hs.length_lt
          simp only [List.length_cons] at h this
          omega

/-- The scan of a line finds its class attributes left to right. -/
theorem found_attributeValues (line : List Char) : Found true line 0 (attributeValues line) :=
  found_attributeValuesFuel _ _ _ _ (Nat.lt_succ_self _)

/-- Each value found stands in the text at the byte offset given for it. -/
theorem Found.mem_split {atStart : Bool} {cs : List Char} {off : Nat} {vs : List (Nat × List Char)}
    (h : Found atStart cs off vs) :
    ∀ a ∈ vs, ∃ pre post, cs = pre ++ a.2 ++ post ∧ a.1 = off + byteSize pre := by
  induction h with
  | none => simp
  | @first atStart cs pre lead value rest off vs hs _ _ ih =>
    obtain ⟨-, after, rfl, q, ⟨hq, -⟩, -, rfl⟩ := hs
    have hsize : q.utf8Size = 1 := by rcases hq with rfl | rfl <;> rfl
    intro a ha
    rcases List.mem_cons.1 ha with rfl | ha
    · exact ⟨pre ++ lead, q :: rest, by simp, rfl⟩
    · obtain ⟨pre', post', rfl, hoff⟩ := ih a ha
      refine ⟨pre ++ lead ++ value ++ q :: pre', post', by simp, ?_⟩
      simp [hoff, hsize]
      omega

/-! ## The names of a value -/

/-- The blank-separated names of `cs` with the byte offsets where they start, where `cs` starts
at byte `off`: blanks, or blanks, a name and the names of the rest, which starts with a blank
or is empty. -/
inductive Spans : List Char → Nat → List (String × Nat) → Prop
  | blanks {b : List Char} {off : Nat} : (∀ c ∈ b, isBlank c = true) → Spans b off []
  | name {b w rest : List Char} {off : Nat} {ns : List (String × Nat)} :
      (∀ c ∈ b, isBlank c = true) → w ≠ [] → (∀ c ∈ w, isBlank c = false) →
      (∀ c ∈ rest.head?, isBlank c = true) → Spans rest (off + byteSize (b ++ w)) ns →
      Spans (b ++ w ++ rest) off ((String.ofList w, off + byteSize b) :: ns)

/-- A text is a part whose characters pass a test, then a rest that does not start with one. -/
theorem exists_span (p : Char → Bool) (l : List Char) :
    ∃ a r, l = a ++ r ∧ (∀ c ∈ a, p c = true) ∧ ∀ c ∈ r.head?, p c = false := by
  refine ⟨l.takeWhile p, l.dropWhile p, List.takeWhile_append_dropWhile.symm,
    fun c hc => List.mem_takeWhile_imp hc, fun c hc => ?_⟩
  cases hd : l.dropWhile p with
  | nil => simp [hd] at hc
  | cons d r =>
    have := List.head_dropWhile_not p (l := l) (by simp [hd])
    simp only [hd, List.head?_cons, Option.mem_def, Option.some.injEq] at hc
    simpa [hd, hc] using this

section Names

variable {acc cs r : List Char} {off st : Nat}

theorem namesFrom_blanks {b : List Char} (hb : ∀ c ∈ b, isBlank c = true) :
    namesFrom (b ++ r) off none = namesFrom r (off + byteSize b) none := by
  induction b generalizing off with
  | nil => simp
  | cons c b ih =>
    simp only [List.mem_cons, forall_eq_or_imp] at hb
    simp only [List.cons_append, namesFrom, hb.1, if_true, closeName, List.nil_append,
      ih hb.2, byteSize_cons]
    rw [Nat.add_assoc]

theorem namesFrom_word {w : List Char} (hw : ∀ c ∈ w, isBlank c = false) :
    namesFrom (w ++ r) off (some (acc, st)) = namesFrom r (off + byteSize w) (some (w.reverse ++ acc, st)) := by
  induction w generalizing off acc with
  | nil => simp
  | cons c w ih =>
    simp only [List.mem_cons, forall_eq_or_imp] at hw
    simp only [List.cons_append, namesFrom, hw.1, Bool.false_eq_true, if_false, ih hw.2,
      byteSize_cons, List.reverse_cons, List.append_assoc, List.nil_append]
    rw [Nat.add_assoc]

theorem namesFrom_close (hr : ∀ c ∈ r.head?, isBlank c = true) :
    namesFrom r off (some (acc, st)) = (String.ofList acc.reverse, st) :: namesFrom r off none := by
  cases r with
  | nil => rfl
  | cons c r => simp [namesFrom, hr c rfl, closeName]

/-- The names the scan of a value reads, and where they start. -/
theorem spans_namesFrom (cs : List Char) (off : Nat) : Spans cs off (namesFrom cs off none) := by
  induction h : cs.length using Nat.strong_induction_on generalizing cs off with
  | _ n ih =>
    subst h
    -- the blanks in front, then the name up to the next blank
    obtain ⟨b, r₁, rfl, hb, hr₁⟩ := exists_span isBlank cs
    rw [namesFrom_blanks hb]
    cases r₁ with
    | nil => exact .blanks (by simpa using hb)
    | cons c r =>
      obtain ⟨w, r₂, hw, hwb, hr₂⟩ := exists_span (fun c => !isBlank c) r
      have hc : isBlank c = false := hr₁ c rfl
      have hwb' : ∀ d ∈ c :: w, isBlank d = false := by
        simpa [hc] using hwb
      have hr₂' : ∀ d ∈ r₂.head?, isBlank d = true := by simpa using hr₂
      -- the name `c :: w` closes at the blank that starts `r₂`, or at the end
      have hname : namesFrom (c :: r) (off + byteSize b) none =
          (String.ofList (c :: w), off + byteSize b) ::
            namesFrom r₂ (off + byteSize (b ++ c :: w)) none := by
        rw [hw]
        simp only [namesFrom, hc, Bool.false_eq_true, if_false]
        rw [namesFrom_word (fun d hd => hwb' d (List.mem_cons_of_mem c hd)), namesFrom_close hr₂']
        simp [Nat.add_assoc]
      rw [hname, hw, ← List.cons_append, ← List.append_assoc]
      exact .name hb (List.cons_ne_nil _ _) hwb' hr₂' (ih _ (by simp [hw]; omega) _ _ rfl)

theorem fieldsFrom_blanks {b : List Char} (hb : ∀ c ∈ b, isBlank c = true) :
    fieldsFrom (b ++ r) [] = fieldsFrom r [] := by
  induction b with
  | nil => rfl
  | cons c b ih =>
    simp only [List.mem_cons, forall_eq_or_imp] at hb
    simp [fieldsFrom, hb.1, ih hb.2]

theorem fieldsFrom_word {w : List Char} (hw : ∀ c ∈ w, isBlank c = false) :
    fieldsFrom (w ++ r) acc = fieldsFrom r (w.reverse ++ acc) := by
  induction w generalizing acc with
  | nil => rfl
  | cons c w ih =>
    simp only [List.mem_cons, forall_eq_or_imp] at hw
    simp [fieldsFrom, hw.1, ih hw.2]

theorem fieldsFrom_close (acc : List Char) (hacc : acc ≠ []) (hr : ∀ c ∈ r.head?, isBlank c = true) :
    fieldsFrom r acc = String.ofList acc.reverse :: fieldsFrom r [] := by
  cases r with
  | nil => simp [fieldsFrom, hacc]
  | cons c r => simp [fieldsFrom, hr c rfl, hacc]

/-- The names are the fields of the value, in order. -/
theorem Spans.names_eq_fields {ns : List (String × Nat)} (h : Spans cs off ns) :
    ns.map Prod.fst = fields (String.ofList cs) := by
  rw [fields, String.toList_ofList]
  induction h with
  | blanks hb => simpa [fieldsFrom] using fieldsFrom_blanks (r := []) hb
  | @name b w rest off ns hb hw hwb hrest _ ih =>
    rw [List.map_cons, ih, List.append_assoc, fieldsFrom_blanks hb, fieldsFrom_word hwb,
      List.append_nil, fieldsFrom_close w.reverse (by simpa using hw) hrest, List.reverse_reverse]

/-- Each name stands in the value at the byte offset given for it. -/
theorem Spans.mem_split {ns : List (String × Nat)} (h : Spans cs off ns) :
    ∀ a ∈ ns, ∃ pre post, cs = pre ++ a.1.toList ++ post ∧ a.2 = off + byteSize pre := by
  induction h with
  | blanks => simp
  | @name b w rest off ns _ _ _ _ _ ih =>
    intro a ha
    rcases List.mem_cons.1 ha with rfl | ha
    · exact ⟨b, rest, by simp, rfl⟩
    · obtain ⟨pre, post, rfl, hoff⟩ := ih a ha
      exact ⟨b ++ w ++ pre, post, by simp, by simp [hoff, Nat.add_assoc]⟩

end Names

/-- The names of a value with the byte offsets where they start, the value starting at byte
`off`. -/
theorem spans_namesAt (value : List Char) (off : Nat) : Spans value off (namesAt value off) :=
  spans_namesFrom value off

/-! ## The references of a line -/

/-- The reference a name of a value makes. -/
theorem refsOfLine_eq (line : String) (n : Nat) :
    refsOfLine line n = ((attributeValues line.toList).map fun a =>
      (namesAt a.2 a.1).map fun p => (⟨p.1, String.ofList a.2, n, p.2 + 1, line⟩ : ClassRef)).flatten :=
  rfl

/-- A reference of a line stands in it at its column, and holds the line's text. -/
theorem mem_refsOfLine_split {line : String} {n : Nat} {r : ClassRef} (hr : r ∈ refsOfLine line n) :
    r.text = line ∧ r.line = n ∧ 0 < r.column ∧ ∃ pre post,
      line.toList = pre ++ r.className.toList ++ post ∧ (String.ofList pre).utf8ByteSize = r.column - 1 := by
  rw [refsOfLine_eq, List.mem_flatten] at hr
  obtain ⟨g, hg, hr⟩ := hr
  obtain ⟨a, ha, rfl⟩ := List.mem_map.1 hg
  obtain ⟨p, hp, rfl⟩ := List.mem_map.1 hr
  -- the value stands in the line, and the name in the value
  obtain ⟨pre, post, hline, hstart⟩ := (found_attributeValues line.toList).mem_split a ha
  obtain ⟨pre', post', hvalue, hoff⟩ := (spans_namesAt a.2 a.1).mem_split p hp
  refine ⟨rfl, rfl, Nat.succ_pos _, pre ++ pre', post' ++ post, ?_, ?_⟩
  · show line.toList = pre ++ pre' ++ p.1.toList ++ (post' ++ post)
    rw [hline, hvalue]
    simp
  · rw [← byteSize_eq_utf8ByteSize]
    simp [hoff, hstart]

/-- The class references of a line: for each class attribute, found left to right, one reference
for each field of its value, in order, each with the value, the line's number and text, and the
1-based byte column where that field starts. So the line holds each reference's name at byte
`column - 1`. -/
theorem class_references_at_columns (line : String) (n : Nat) :
    ∃ (found : List (Nat × List Char)) (groups : List (List ClassRef)),
      Found true line.toList 0 found ∧ refsOfLine line n = groups.flatten ∧
      List.Forall₂ (fun (a : Nat × List Char) (g : List ClassRef) =>
          g.map (·.className) = fields (String.ofList a.2) ∧
          Spans a.2 a.1 (g.map fun r => (r.className, r.column - 1)) ∧
          ∀ r ∈ g, r.classAttr = String.ofList a.2 ∧ r.line = n ∧ r.text = line)
        found groups ∧
      ∀ r ∈ refsOfLine line n, ∃ pre post, line.toList = pre ++ r.className.toList ++ post ∧
        (String.ofList pre).utf8ByteSize = r.column - 1 ∧ 0 < r.column := by
  refine ⟨attributeValues line.toList, _, found_attributeValues _, refsOfLine_eq line n, ?_,
    fun r hr => ?_⟩
  · rw [List.forall₂_map_right_iff, List.forall₂_same]
    intro a _
    have hspans := spans_namesAt a.2 a.1
    refine ⟨?_, ?_, ?_⟩
    · rw [← hspans.names_eq_fields]
      simp
    · simpa [Function.comp_def] using hspans
    · intro r hr
      obtain ⟨p, -, rfl⟩ := List.mem_map.1 hr
      exact ⟨rfl, rfl, rfl⟩
  · obtain ⟨-, -, hpos, pre, post, hline, hbytes⟩ := mem_refsOfLine_split hr
    exact ⟨pre, post, hline, hbytes, hpos⟩

/-- The name `b` after `ab` is found at its own column, not inside `ab`. -/
example : (refsOfLine "<p class=\"ab b\">" 1).map (fun r => (r.className, r.column)) =
    [("ab", 11), ("b", 14)] := by
  decide

end UtilityStyles.Lint
