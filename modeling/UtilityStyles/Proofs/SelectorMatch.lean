import UtilityStyles.Page.Basic
import Mathlib
/-!
# Which elements a selector picks

A selector picks an element when one of its chains does. A chain of compound selectors
`c₀ ⊙ c₁ ⊙ ⋯ ⊙ cₖ`, each `⊙` a `>` or a blank, picks an element `eₖ` when there are elements
`e₀, …, eₖ`, each `eᵢ` meeting the conditions of `cᵢ`, with `eᵢ₋₁` the parent of `eᵢ` after a
`>` and a proper ancestor of `eᵢ` after a blank. `Chain.Selects` says this one compound at a
time, from the right, as chains are built; `Compound.Holds` says what meeting the conditions of
a compound is.

Matching reads an element with its ancestors, nearest first (`Page.lineage`). On a page whose
parents come before their children, which every loaded page is and setting a style keeps, that
list is the element followed by its parent's list, and its suffixes are the lists of the
element and its ancestors. Matching is then exactly `Chain.Selects`, and a selector picks the
elements it selects in document order, each once.

A compound keeps one id: reading `#a#b` keeps `b`, so `#a#b` picks the elements whose id is `b`.

## Main definitions

* `Compound.Holds` : the conditions of a compound selector, on an element.
* `Page.ParentOf`, `Page.ParentsBefore` : the parent relation, and parents before children.
* `Chain.Selects` : the elements a chain selects on a page.

## Main statements

* `Compound.matches_iff` : matching a compound is meeting its conditions.
* `Page.load_parentsBefore`, `Page.ParentsBefore.setStyle` : parents come first on every page.
* `Chain.matches_lineage_iff` : matching a chain is selecting.
* `query_picks_selected_elements` : what a selector text picks.
-/

namespace UtilityStyles.Css

open UtilityStyles.Markup (Attr)
open UtilityStyles.Text (sameFold fields)

/-- The conditions of a compound selector, on an element: the type is the element's name
ignoring case, the id is the element's id, each class is one of the blank-separated names of
the element's class attribute, and each attribute test names an attribute of the element, with
the value it gives when it gives one. -/
def Compound.Holds (c : Compound) (e : ElementView) : Prop :=
  (∀ t ∈ c.tag, sameFold e.tag t = true) ∧
  (∀ i ∈ c.id, (Attr.lookup e.attrs "id").getD "" = i) ∧
  (∀ n ∈ c.classes, n ∈ fields ((Attr.lookup e.attrs "class").getD "")) ∧
  ∀ a ∈ c.attrs, ∃ v, Attr.lookup e.attrs a.name = some v ∧ ∀ w ∈ a.value, w = v

theorem Compound.matches_iff (c : Compound) (e : ElementView) :
    c.matches e = true ↔ c.Holds e := by
  unfold Compound.matches Compound.Holds
  simp only [Bool.and_eq_true, Option.all_eq_true, List.all_eq_true, List.contains_iff_mem,
    beq_iff_eq, Option.mem_def, and_assoc]
  refine and_congr Iff.rfl (and_congr Iff.rfl (and_congr Iff.rfl (forall₂_congr fun a _ => ?_)))
  cases Attr.lookup e.attrs a.name <;> simp [Option.all_eq_true]

instance (c : Compound) (e : ElementView) : Decidable (c.Holds e) :=
  decidable_of_iff _ (c.matches_iff e)

end UtilityStyles.Css

namespace UtilityStyles.Page

open UtilityStyles.Css (suffixes)

variable {p : Page}

/-- `j` is the parent of `i`. -/
def ParentOf (p : Page) (j i : Nat) : Prop := p.parent i = some j

/-- Every element's parent comes before it. -/
def ParentsBefore (p : Page) : Prop := ∀ i j, p.parent i = some j → j < i

/-- Past the last element there is no parent. -/
theorem parent_eq_none_of_le {i : Nat} (h : p.size ≤ i) : p.parent i = none := by
  simp [parent, get, Array.getD, size] at h ⊢
  simp [Nat.not_lt.2 h]
  rfl

/-- Parents come first when they do for the elements of the page. -/
theorem parentsBefore_iff :
    p.ParentsBefore ↔ ∀ i < p.size, (p.parent i).all (· < i) = true := by
  constructor
  · intro hp i _
    cases hpi : p.parent i with
    | none => rfl
    | some j => simpa using hp i j hpi
  · intro h i j hj
    have hi : i < p.size := Nat.lt_of_not_le fun hle => by simp [parent_eq_none_of_le hle] at hj
    simpa [hj] using h i hi

instance : Decidable p.ParentsBefore :=
  decidable_of_iff _ parentsBefore_iff.symm

/-- Fuel past an element's number reads its whole lineage. -/
theorem lineageFrom_succ (hp : p.ParentsBefore) (f : Nat) :
    ∀ i, i < f → p.lineageFrom (f + 1) i = p.lineageFrom f i := by
  induction f with
  | zero => exact fun _ h => absurd h (Nat.not_lt_zero _)
  | succ f ih =>
    intro i h
    rw [lineageFrom, lineageFrom]
    cases hpi : p.parent i with
    | none => rfl
    | some j => simp [ih j (by have := hp i j hpi; omega)]

/-- An element followed by its parent's lineage. -/
theorem lineage_eq (hp : p.ParentsBefore) (i : Nat) :
    p.lineage i = p.view i :: ((p.parent i).map p.lineage).getD [] := by
  rw [lineage, lineageFrom]
  cases hpi : p.parent i with
  | none => rfl
  | some j =>
    -- the parent is an element, so it comes before the end
    have hi : i < p.size := Nat.lt_of_not_le fun h => by simp [parent_eq_none_of_le h] at hpi
    have hj := hp i j hpi
    simp [lineage, lineageFrom_succ hp p.size j (by omega)]

/-- The suffixes of an element's lineage are the lineages of the element and its ancestors. -/
theorem mem_suffixes_lineage (hp : p.ParentsBefore) {t : List Css.ElementView} (j : Nat) :
    t ∈ suffixes (p.lineage j) ↔ ∃ k, Relation.ReflTransGen p.ParentOf k j ∧ t = p.lineage k := by
  induction j using Nat.strongRecOn with
  | ind j ih =>
  rw [lineage_eq hp j, suffixes, List.mem_cons, ← lineage_eq hp j]
  cases hpj : p.parent j with
  | none =>
    -- without a parent, `j` is its only ancestor-or-self
    simp only [Option.map_none, Option.getD_none, suffixes, List.not_mem_nil, or_false]
    constructor
    · rintro rfl
      exact ⟨j, .refl, rfl⟩
    · rintro ⟨k, hk, rfl⟩
      rcases Relation.ReflTransGen.cases_tail hk with rfl | ⟨m, -, hm⟩
      · rfl
      · simp [ParentOf, hpj] at hm
  | some m =>
    simp only [Option.map_some, Option.getD_some]
    rw [ih m (hp j m hpj)]
    constructor
    · rintro (rfl | ⟨k, hk, rfl⟩)
      · exact ⟨j, .refl, rfl⟩
      · exact ⟨k, hk.tail hpj, rfl⟩
    · rintro ⟨k, hk, rfl⟩
      rcases Relation.ReflTransGen.cases_tail hk with rfl | ⟨m', hk', hm'⟩
      · exact .inl rfl
      · have : m' = m := Option.some.inj (hm'.symm.trans hpj)
        subst this
        exact .inr ⟨k, hk', rfl⟩

/-- Without a parent, an element has no ancestor. -/
theorem not_transGen_of_parent_eq_none {i k : Nat} (h : p.parent i = none) :
    ¬ Relation.TransGen p.ParentOf k i := by
  intro hk
  obtain ⟨m, -, hm⟩ := Relation.TransGen.tail'_iff.1 hk
  simp [ParentOf, h] at hm

/-- The ancestors of an element with a parent are its parent and the parent's ancestors. -/
theorem transGen_iff_of_parent_eq_some {i j k : Nat} (h : p.parent i = some j) :
    Relation.TransGen p.ParentOf k i ↔ Relation.ReflTransGen p.ParentOf k j := by
  rw [Relation.TransGen.tail'_iff]
  constructor
  · rintro ⟨m, hk, hm⟩
    rwa [Option.some.inj (hm.symm.trans h)] at hk
  · exact fun hk => ⟨j, hk, h⟩

/-! ## Pages keep parents first -/

/-- Elements whose parents come before them. -/
def ParentsFirst (es : Array Page.Element) : Prop :=
  ∀ i j, (es.getD i default).parent = some j → j < i

theorem ParentsFirst.push {es : Array Page.Element} (h : ParentsFirst es) (e : Page.Element)
    (he : ∀ j, e.parent = some j → j < es.size) : ParentsFirst (es.push e) := by
  intro i j hj
  simp only [Array.getD_eq_getD_getElem?, Array.getElem?_push] at hj
  split at hj
  · subst i
    exact he j (by simpa using hj)
  · exact h i j (by simpa [Array.getD_eq_getD_getElem?] using hj)

/-- Collecting elements after `acc` under `parent` keeps parents first, when the parent is already
collected, and only adds elements. -/
def CollectsFirst (collect : Option Nat → Array Page.Element → Array Page.Element) : Prop :=
  ∀ parent acc, ParentsFirst acc → (∀ j, parent = some j → j < acc.size) →
    ParentsFirst (collect parent acc) ∧ acc.size ≤ (collect parent acc).size

/-- Collecting a node's elements keeps parents first. -/
theorem collectNode_collectsFirst (n : Markup.Node) :
    CollectsFirst fun parent acc => Page.collectNode parent acc n := by
  -- induction over the node and the lists of children in it
  refine @Markup.Node.rec (fun n => CollectsFirst fun parent acc => Page.collectNode parent acc n)
    (fun ns => CollectsFirst fun parent acc => Page.collectAll parent acc ns)
    ?element ?text ?comment ?directive ?instruction ?nil ?cons n
  case element =>
    intro name attrs children ih parent acc hacc hpar
    dsimp only
    rw [Page.collectNode]
    -- the element goes at the end, and its children are collected under it
    have hpush := hacc.push ⟨name, parent, attrs, Css.InlineStyle.ofAttr
      ((Markup.Attr.lookup attrs "style").getD "")⟩ hpar
    obtain ⟨hfirst, hsize⟩ := ih (some acc.size) _ hpush (fun j hj => by simp at hj ⊢; omega)
    exact ⟨hfirst, by simp at hsize; omega⟩
  case text => exact fun _ _ _ hacc _ => ⟨hacc, Nat.le_refl _⟩
  case comment => exact fun _ _ _ hacc _ => ⟨hacc, Nat.le_refl _⟩
  case directive => exact fun _ _ _ hacc _ => ⟨hacc, Nat.le_refl _⟩
  case instruction => exact fun _ _ _ _ hacc _ => ⟨hacc, Nat.le_refl _⟩
  case nil => exact fun _ _ hacc _ => ⟨hacc, Nat.le_refl _⟩
  case cons =>
    intro n rest hn hrest parent acc hacc hpar
    dsimp only
    rw [Page.collectAll]
    obtain ⟨hnode, hle⟩ := hn parent acc hacc hpar
    obtain ⟨hall, hle'⟩ := hrest parent _ hnode (fun j hj => Nat.lt_of_lt_of_le (hpar j hj) hle)
    exact ⟨hall, Nat.le_trans hle hle'⟩

/-- On a loaded page, every element's parent comes before it. -/
theorem load_parentsBefore {text : String} (h : Page.load text = .ok p) : p.ParentsBefore := by
  unfold Page.load at h
  split at h
  · cases h
  · split at h
    · cases h
    · cases h
      exact (collectNode_collectsFirst _ none #[] (fun _ _ h => by cases h) (by simp)).1

/-- Setting a style leaves every parent as it was. -/
@[simp] theorem parent_setStyle (i : Nat) (property value : String) (k : Nat) :
    (p.setStyle i property value).parent k = p.parent k := by
  unfold setStyle
  split
  · simp only [parent, get, Array.getD_eq_getD_getElem?, Array.getElem?_set]
    split
    · subst k
      simp_all
    · rfl
  · rfl

theorem ParentsBefore.setStyle (hp : p.ParentsBefore) (i : Nat) (property value : String) :
    (p.setStyle i property value).ParentsBefore := by
  intro k j hk
  rw [parent_setStyle] at hk
  exact hp k j hk

/-- A selector text that reads as a selector picks what the selector picks. -/
theorem query_of_parse {source : String} {s : Css.Selector} (h : Css.Selector.parse source = .ok s) :
    p.query source = .ok (p.select s) := by
  rw [query, h]
  rfl

end UtilityStyles.Page

namespace UtilityStyles.Css

open UtilityStyles.Page (ParentOf ParentsBefore)

variable {p : Page}

/-- The elements a chain selects on a page. A single compound selects the elements that meet
it; after `>`, an element that meets the last compound and whose parent the rest of the chain
selects; after a blank, one that meets the last compound and has an ancestor the rest of the
chain selects. -/
inductive Chain.Selects (p : Page) : Chain → Nat → Prop
  | single {c : Compound} {i : Nat} : c.Holds (p.view i) → Chain.Selects p (.single c) i
  | child {l : Chain} {c : Compound} {i j : Nat} : c.Holds (p.view i) → p.ParentOf j i →
      Chain.Selects p l j → Chain.Selects p (.child l c) i
  | descendant {l : Chain} {c : Compound} {i j : Nat} : c.Holds (p.view i) →
      Relation.TransGen p.ParentOf j i → Chain.Selects p l j → Chain.Selects p (.descendant l c) i

theorem Chain.selects_single_iff {c : Compound} {i : Nat} :
    (Chain.single c).Selects p i ↔ c.Holds (p.view i) := by
  constructor
  · rintro ⟨h⟩
    exact h
  · exact .single

theorem Chain.selects_child_iff {l : Chain} {c : Compound} {i : Nat} :
    (Chain.child l c).Selects p i ↔ c.Holds (p.view i) ∧ ∃ j, p.ParentOf j i ∧ l.Selects p j := by
  constructor
  · intro h
    cases h with
    | child h hj hl => exact ⟨h, _, hj, hl⟩
  · rintro ⟨h, j, hj, hl⟩
    exact .child h hj hl

theorem Chain.selects_descendant_iff {l : Chain} {c : Compound} {i : Nat} :
    (Chain.descendant l c).Selects p i ↔
      c.Holds (p.view i) ∧ ∃ j, Relation.TransGen p.ParentOf j i ∧ l.Selects p j := by
  constructor
  · intro h
    cases h with
    | descendant h hj hl => exact ⟨h, _, hj, hl⟩
  · rintro ⟨h, j, hj, hl⟩
    exact .descendant h hj hl

/-- Matching a chain against an element's lineage is selecting the element. -/
theorem Chain.matches_lineage_iff (hp : p.ParentsBefore) (ch : Chain) (i : Nat) :
    ch.matches (p.lineage i) = true ↔ ch.Selects p i := by
  induction ch generalizing i with
  | single c =>
    rw [Page.lineage_eq hp, Chain.matches, Compound.matches_iff, selects_single_iff]
  | child l c ih =>
    rw [Page.lineage_eq hp, Chain.matches, selects_child_iff, ← Compound.matches_iff]
    cases hpi : p.parent i with
    | none => simp [ParentOf, hpi]
    | some j =>
      have hne : (p.lineage j).isEmpty = false := by rw [Page.lineage_eq hp]; rfl
      simp [ParentOf, hpi, hne, ih]
  | descendant l c ih =>
    rw [Page.lineage_eq hp, Chain.matches, selects_descendant_iff, ← Compound.matches_iff]
    cases hpi : p.parent i with
    | none => simp [suffixes, Page.not_transGen_of_parent_eq_none hpi]
    | some j =>
      -- the candidate lists are the lineages of the parent and its ancestors
      simp only [Option.map_some, Option.getD_some, Bool.and_eq_true, List.any_eq_true,
        Page.mem_suffixes_lineage hp, Page.transGen_iff_of_parent_eq_some hpi]
      constructor
      · rintro ⟨hc, t, ⟨k, hk, rfl⟩, hl⟩
        exact ⟨hc, k, hk, (ih k).1 hl⟩
      · rintro ⟨hc, k, hk, hl⟩
        exact ⟨hc, _, ⟨k, hk, rfl⟩, (ih k).2 hl⟩

/-! ## What a selector picks -/

/-- A selector picks the elements one of its chains selects. -/
theorem mem_select_iff (hp : p.ParentsBefore) (s : Selector) (i : Nat) :
    i ∈ p.select s ↔ i < p.size ∧ ∃ ch ∈ s.chains, ch.Selects p i := by
  simp [Page.select, Selector.matches, Chain.matches_lineage_iff hp]

/-- A selector picks elements in document order, each once. -/
theorem select_sorted (s : Selector) : (p.select s).Pairwise (· < ·) :=
  List.pairwise_lt_range.filter _

/-- **What a selector picks.** On a page whose parents come before their children (every loaded
page, and every page after setting styles), a selector that reads from its text picks exactly
the elements one of its chains selects, in document order, each once. -/
theorem query_picks_selected_elements (p : Page) (hp : p.ParentsBefore) (source : String)
    (s : Selector) (hs : Selector.parse source = .ok s) :
    ∃ is, p.query source = .ok is ∧
      (∀ i, i ∈ is ↔ i < p.size ∧ ∃ ch ∈ s.chains, ch.Selects p i) ∧ is.Pairwise (· < ·) := by
  exact ⟨p.select s, Page.query_of_parse hs, mem_select_iff hp s, select_sorted s⟩

theorem query_picks_selected_elements_child :
    ∃ is, (⟨[], #[⟨⟨"", "div"⟩, none, [], ⟨[]⟩⟩, ⟨⟨"", "p"⟩, some 0, [], ⟨[]⟩⟩]⟩ : Page).query
        "div > p" = .ok is ∧
      (∀ i, i ∈ is ↔ i < 2 ∧
        ∃ ch ∈ [Chain.child (.single ⟨some "div", none, [], []⟩) ⟨some "p", none, [], []⟩],
          ch.Selects ⟨[], #[⟨⟨"", "div"⟩, none, [], ⟨[]⟩⟩, ⟨⟨"", "p"⟩, some 0, [], ⟨[]⟩⟩]⟩ i) ∧
      is.Pairwise (· < ·) := by
  refine query_picks_selected_elements _ (by decide) "div > p"
    ⟨[.child (.single ⟨some "div", none, [], []⟩) ⟨some "p", none, [], []⟩]⟩ rfl

/-- A compound keeps one id: reading `#a#b` keeps `b`, and the selector picks an element whose id
is `b` though it has no id `a`. -/
theorem compound_keeps_last_id :
    Selector.parse "#a#b" = .ok ⟨[.single ⟨none, some "b", [], []⟩]⟩ ∧
    (⟨[], #[⟨⟨"", "div"⟩, none, [⟨⟨"", "id"⟩, "b"⟩], ⟨[]⟩⟩]⟩ : Page).query "#a#b" = .ok [0] :=
  ⟨rfl, rfl⟩

end UtilityStyles.Css
