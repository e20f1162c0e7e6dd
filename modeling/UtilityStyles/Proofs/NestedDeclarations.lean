import UtilityStyles.Proofs.Bindings
import UtilityStyles.Proofs.SelectorMatch
import UtilityStyles.Proofs.SelectorParse
import UtilityStyles.Proofs.WordTokens
/-!
# Nested style declarations

A bulk declaration maps selectors to class strings, or to maps that nest further selectors
inside. Declaring it comes down to its leaves: each value that is not a map, with the keys on
the way to it. The keys of every map are taken in sorted order, and a leaf is declared for its
keys joined by blanks: a class string is applied to every element that selector text picks, and
anything else is refused with an error, without stopping the leaves after it.

Joining keys with a blank scopes the inner key to descendants of the outer one only when the
joined text reads as the keys' chains one after another. It does when each key reads alone as
one chain and the joined text's tokens are the keys' tokens with a blank between each two: the
joined selector is then the chains each under the one before (`Chain.nest`), and it picks the
elements the innermost key selects from an element with an ancestor that the next key out
selects, and so on out to the first key. A key that is a selector list does not read as one
chain: `a, b` with `c` inside joins to `a, b c`, which picks every `a`.

## Main definitions

* `Config.Value.leaves` : the leaves of a declared value, in the order they are declared.
* `Session.declareLeaf`, `Session.declLeaves` : declaring one leaf, and the leaves of bulk
  declarations.
* `Chain.under`, `Chain.nest` : a chain under another, and chains each under the one before.
* `Chain.SelectsFrom`, `ScopedBy` : selecting from the element a chain starts at, and selecting
  under the elements the outer keys select.

## Main statements

* `Session.declareWith_eq_leaves`, `Session.makeStyles_eq_leaves` : declaring is declaring the
  leaves in order.
* `Css.Selector.parse_intercalate` : joined keys read as their chains nested.
* `Css.Chain.selects_nest_iff` : what nested chains select.
* `Page.query_nest` : a selector text of nested chains picks what they scope.
* `nested_declarations_apply_to_scoped_elements` : what declaring nested maps applies where.
-/

namespace UtilityStyles

theorem mem_sortByKey {α : Type} {l : List (String × α)} {x : String × α} :
    x ∈ sortByKey l ↔ x ∈ l :=
  (List.mergeSort_perm l _).mem_iff

namespace Config.Value

/-- A member of a map nests no deeper than the map's members. -/
theorem depth_le_depthMembers {ms : List (String × Value)} {m : String × Value} (h : m ∈ ms) :
    m.2.depth ≤ depthMembers ms := by
  induction ms with
  | nil => cases h
  | cons m' rest ih =>
    rw [depthMembers]
    rcases List.mem_cons.1 h with rfl | h
    · exact Nat.le_max_left _ _
    · exact Nat.le_trans (ih h) (Nat.le_max_right _ _)

/-- The leaves of a declared value: each value that is not a map, with the keys of the maps
around it, outermost first. The members of a map are taken in sorted order of key. -/
def leaves : Value → List (List String × Value)
  | .map ms => (sortByKey ms).attach.flatMap fun m =>
      m.1.2.leaves.map fun leaf => (m.1.1 :: leaf.1, leaf.2)
  | v => [([], v)]
termination_by v => sizeOf v
decreasing_by
  -- a member of a map is smaller than the map
  have h := List.sizeOf_lt_of_mem (mem_sortByKey.1 m.2)
  obtain ⟨⟨k, v⟩, _⟩ := m
  simp only [Prod.mk.sizeOf_spec] at h
  simp only [map.sizeOf_spec]
  omega

theorem leaves_map (ms : List (String × Value)) :
    (map ms).leaves =
      (sortByKey ms).flatMap fun m => m.2.leaves.map fun leaf => (m.1 :: leaf.1, leaf.2) := by
  rw [leaves]
  conv_rhs => rw [← List.attach_map_subtype_val (sortByKey ms), List.flatMap_map]

theorem leaves_of_not_map {v : Value} (hv : ∀ ms, v ≠ map ms) : v.leaves = [([], v)] := by
  rw [leaves]
  exact fun ms h => hv ms h

/-- No leaf is a map. -/
theorem not_map_of_mem_leaves (v : Value) :
    ∀ leaf ∈ v.leaves, ∀ ms, leaf.2 ≠ map ms := by
  induction v using leaves.induct with
  | case1 ms ih =>
    intro leaf h
    rw [leaves_map] at h
    obtain ⟨m, hm, hleaf⟩ := List.mem_flatMap.1 h
    obtain ⟨l, hl, rfl⟩ := List.mem_map.1 hleaf
    exact ih ⟨m, hm⟩ l hl
  | case2 v hv =>
    intro leaf h
    rw [leaves_of_not_map hv] at h
    rw [List.mem_singleton.1 h]
    exact hv

end Config.Value

namespace Session

/-- Declares one leaf, for its keys joined by blanks, and adds its errors to those so far. -/
def declareLeaf (acc : Session × List DeclareError) (leaf : List String × Config.Value) :
    Session × List DeclareError :=
  ((declareWith 0 acc.1 (" ".intercalate leaf.1) leaf.2).1,
    acc.2 ++ (declareWith 0 acc.1 (" ".intercalate leaf.1) leaf.2).2)

/-- Declaring leaves adds their errors after those already there. -/
theorem foldl_declareLeaf (leaves : List (List String × Config.Value)) (s : Session)
    (errs : List DeclareError) :
    leaves.foldl declareLeaf (s, errs) =
      ((leaves.foldl declareLeaf (s, [])).1, errs ++ (leaves.foldl declareLeaf (s, [])).2) := by
  induction leaves generalizing s errs with
  | nil => simp
  | cons leaf rest ih =>
    rw [List.foldl_cons, List.foldl_cons, ih, ih (declareLeaf (s, []) leaf).1]
    simp [declareLeaf]

/-- A leaf under a key joined to the selector is the leaf under both keys. -/
theorem declareLeaf_join (acc : Session × List DeclareError) (sel child : String)
    (path : List String) (v : Config.Value) :
    declareLeaf acc ((sel ++ " " ++ child) :: path, v) = declareLeaf acc (sel :: child :: path, v) := by
  have h : " ".intercalate ((sel ++ " " ++ child) :: path) = " ".intercalate (sel :: child :: path) := by
    simp [String.append_assoc]
  simp only [declareLeaf, h]

/-- A value that is not a map is declared the same way with any fuel. -/
theorem declareWith_of_not_map {v : Config.Value} (hv : ∀ ms, v ≠ .map ms) (fuel : Nat)
    (s : Session) (sel : String) : declareWith fuel s sel v = declareWith 0 s sel v := by
  cases v with
  | str c => rw [declareWith.eq_1, declareWith.eq_1]
  | map ms => exact absurd rfl (hv ms)
  | _ =>
    rw [declareWith.eq_3 _ _ _ _ (fun _ h => by cases h) (fun _ _ _ h => by cases h),
      declareWith.eq_3 _ _ _ _ (fun _ h => by cases h) (fun _ _ _ h => by cases h)]

/-- Declaring a value with enough fuel declares its leaves in order. -/
theorem declareWith_eq_leaves (fuel : Nat) (s : Session) (sel : String) (v : Config.Value)
    (hf : v.depth < fuel) :
    declareWith fuel s sel v =
      (v.leaves.map fun leaf => (sel :: leaf.1, leaf.2)).foldl declareLeaf (s, []) := by
  induction fuel generalizing s sel v with
  | zero => exact absurd hf (Nat.not_lt_zero _)
  | succ f ih =>
    cases v with
    | map ms =>
      rw [declareWith.eq_2, Config.Value.leaves_map, List.map_flatMap, List.foldl_flatMap]
      -- each member is declared as its own leaves, on the session the earlier members left
      have hmember : ∀ m ∈ sortByKey ms, ∀ (t : Session) (errs : List DeclareError),
          (((declareWith f t (sel ++ " " ++ m.1) m.2).1,
            errs ++ (declareWith f t (sel ++ " " ++ m.1) m.2).2) : Session × List DeclareError) =
          ((m.2.leaves.map fun leaf => (m.1 :: leaf.1, leaf.2)).map
            fun leaf => (sel :: leaf.1, leaf.2)).foldl declareLeaf (t, errs) := by
        intro m hm t errs
        have hd : m.2.depth < f := by
          have := Config.Value.depth_le_depthMembers (mem_sortByKey.1 hm)
          simp only [Config.Value.depth] at hf
          omega
        -- the member's leaves sit under the joined key, or under both keys: the same leaves
        have hjoin : (m.2.leaves.map fun leaf => ((sel ++ " " ++ m.1) :: leaf.1, leaf.2)).foldl
              declareLeaf (t, []) =
            ((m.2.leaves.map fun leaf => (m.1 :: leaf.1, leaf.2)).map
              fun leaf => (sel :: leaf.1, leaf.2)).foldl declareLeaf (t, []) := by
          simp only [List.map_map, List.foldl_map]
          exact List.foldl_ext _ _ _ fun acc leaf _ => declareLeaf_join acc sel m.1 leaf.1 leaf.2
        rw [ih t _ m.2 hd, foldl_declareLeaf _ t errs, hjoin]
      generalize sortByKey ms = ms' at hmember
      generalize (s, ([] : List DeclareError)) = acc
      induction ms' generalizing acc with
      | nil => rfl
      | cons m rest ihm =>
        rw [List.foldl_cons, List.foldl_cons, ← hmember m List.mem_cons_self]
        exact ihm (fun m hm => hmember m (List.mem_cons_of_mem _ hm)) _
    | _ =>
      -- a value that is not a map is its own leaf, declared the same way with any fuel
      rw [Config.Value.leaves_of_not_map (fun _ h => by cases h),
        declareWith_of_not_map (fun _ h => by cases h)]
      simp only [List.map_cons, List.map_nil, List.foldl_cons, List.foldl_nil, declareLeaf,
        List.nil_append, String.intercalate_singleton]

/-- Declaring a value declares its leaves in order. -/
theorem declare_eq_leaves (s : Session) (sel : String) (v : Config.Value) :
    s.declare sel v = (v.leaves.map fun leaf => (sel :: leaf.1, leaf.2)).foldl declareLeaf (s, []) :=
  declareWith_eq_leaves _ s sel v (Nat.lt_succ_self _)

/-- The leaves of bulk declarations: those of each map in turn, each under its key. -/
def declLeaves (decls : List (List (String × Config.Value))) : List (List String × Config.Value) :=
  decls.flatMap fun d => (Config.Value.map d).leaves

/-- A fold over the members of a map whose step declares each member declares the map's leaves,
whatever else the step keeps. -/
theorem foldl_declare_members {β : Type} {step : Session × β × List DeclareError →
      String × Config.Value → Session × β × List DeclareError}
    (hstep : ∀ t b errs sel v, ((step (t, b, errs) (sel, v)).1, (step (t, b, errs) (sel, v)).2.2) =
      ((t.declare sel v).1, errs ++ (t.declare sel v).2))
    (ms : List (String × Config.Value)) (t : Session) (b : β) (errs : List DeclareError) :
    ((ms.foldl step (t, b, errs)).1, (ms.foldl step (t, b, errs)).2.2) =
      (ms.flatMap fun m => m.2.leaves.map fun leaf => (m.1 :: leaf.1, leaf.2)).foldl declareLeaf
        (t, errs) := by
  induction ms generalizing t b errs with
  | nil => rfl
  | cons m rest ih =>
    obtain ⟨sel, v⟩ := m
    have hm := hstep t b errs sel v
    rw [declare_eq_leaves, ← foldl_declareLeaf] at hm
    rw [List.foldl_cons, List.flatMap_cons, List.foldl_append]
    dsimp only
    rw [← hm]
    exact ih _ _ _

/-- A fold over maps whose step declares each map's members declares the maps' leaves, whatever
else the step keeps. -/
theorem foldl_declare_maps {β : Type} {step : Session × β × List DeclareError →
      List (String × Config.Value) → Session × β × List DeclareError}
    (hstep : ∀ t b errs d, ((step (t, b, errs) d).1, (step (t, b, errs) d).2.2) =
      (Config.Value.map d).leaves.foldl declareLeaf (t, errs))
    (decls : List (List (String × Config.Value))) (t : Session) (b : β) (errs : List DeclareError) :
    ((decls.foldl step (t, b, errs)).1, (decls.foldl step (t, b, errs)).2.2) =
      (declLeaves decls).foldl declareLeaf (t, errs) := by
  induction decls generalizing t b errs with
  | nil => rfl
  | cons d rest ih =>
    rw [List.foldl_cons, declLeaves, List.flatMap_cons, List.foldl_append, ← hstep t b errs d]
    exact ih _ _ _

/-- Bulk declarations declare their leaves in order: the session and the errors are those of
declaring each leaf in turn. -/
theorem makeStyles_eq_leaves (s : Session) (decls : List (List (String × Config.Value))) :
    ((s.makeStyles decls).1, (s.makeStyles decls).2.2) = (declLeaves decls).foldl declareLeaf (s, []) := by
  unfold makeStyles
  generalize hres : List.foldl _ (s, ([] : List String), ([] : List DeclareError)) decls = res
  have hleaves : (res.1, res.2.2) = (declLeaves decls).foldl declareLeaf (s, []) := by
    rw [← hres]
    refine foldl_declare_maps (fun t b errs d => ?_) decls s [] []
    rw [Config.Value.leaves_map]
    exact foldl_declare_members (fun _ _ _ _ _ => rfl) (sortByKey d) t b errs
  obtain ⟨t, defined, errs⟩ := res
  exact hleaves

/-! ## Declaring one leaf -/

section Leaf

variable {t : Session} {errs : List DeclareError} {path : List String}

/-- A class string whose keys read as a selector is applied to the elements it picks, each in
turn, and adds no error. -/
theorem declareLeaf_str_ok {cls : String} {els : List Nat}
    (h : t.page.query (" ".intercalate path) = .ok els) :
    declareLeaf (t, errs) (path, .str cls) = (els.foldl (fun u el => (u.applyMulti el cls).1) t, errs) := by
  have hmake : t.makeStyle (" ".intercalate path) cls =
      .ok (els.foldl (fun u el => (u.applyMulti el cls).1) t, els.length) := by
    rw [makeStyle, h]
  simp only [declareLeaf, declareWith.eq_1, hmake, List.append_nil]

/-- A class string whose keys do not read as a selector leaves the session as it was and adds
the selector's error. -/
theorem declareLeaf_str_error {cls : String} {e : Css.SelectorError}
    (h : t.page.query (" ".intercalate path) = .error e) :
    declareLeaf (t, errs) (path, .str cls) = (t, errs ++ [.invalidSelector (" ".intercalate path) e]) := by
  have hmake : t.makeStyle (" ".intercalate path) cls =
      .error (.invalidSelector (" ".intercalate path) e) := by
    rw [makeStyle, h]
  simp only [declareLeaf, declareWith.eq_1, hmake]

/-- Any other value is refused: a warning is logged, the page stays as it was, and the error
names the value's kind. -/
theorem declareLeaf_refused {v : Config.Value} (hv : ∀ c, v ≠ .str c) :
    declareLeaf (t, errs) (path, v) =
      (t.note .warn "invalid styles declaration"
          [("selector", .text (" ".intercalate path)), ("type", .text v.kindName)],
        errs ++ [.invalidStyles (" ".intercalate path) v.kindName]) := by
  rw [declareLeaf, declareWith.eq_3 _ _ _ _ (fun c h => hv c h) (fun _ _ h => by cases h)]

end Leaf

end Session

/-! ## Keys joined by blanks -/

namespace Css

/-- `ch.under base`: the chain `ch` under `base`, joined to it by a blank before its first
compound selector. -/
def Chain.under : Chain → Chain → Chain
  | .single c, base => .descendant base c
  | .child l c, base => .child (l.under base) c
  | .descendant l c, base => .descendant (l.under base) c

/-- Chains each below the one before: the first outermost. -/
def Chain.nest (outer : Chain) (inner : List Chain) : Chain :=
  inner.foldl (fun acc ch => ch.under acc) outer

section Append

/-! Each rule of the grammar reads a start of its tokens, so it reads the same start of longer
tokens. -/

variable (x : List Token)

theorem Blanks.append {ts rest : List Token} (h : Blanks ts rest) : Blanks (ts ++ x) (rest ++ x) := by
  induction h with
  | done ts => exact .done _
  | blank ht _ ih => exact .blank ht ih

theorem AttrToks.append {ts rest : List Token} {a : AttrTest} (h : AttrToks ts a rest) :
    AttrToks (ts ++ x) a (rest ++ x) := by
  cases h with
  | present h₁ hn h₂ hb => exact .present (h₁.append x) hn (h₂.append x) hb
  | valued h₁ hn h₂ he h₃ hv h₄ hb =>
    exact .valued (h₁.append x) hn (h₂.append x) he (h₃.append x) hv (h₄.append x) hb

theorem CondToks.append {ts rest : List Token} {c c' : Compound} (h : CondToks ts c c' rest) :
    CondToks (ts ++ x) c c' (rest ++ x) := by
  cases h with
  | id ht => exact .id ht
  | cls hd hn => exact .cls hd hn
  | attr hb ha => exact .attr hb (ha.append x)

theorem CondsToks.append {ts rest : List Token} {c c' : Compound} (h : CondsToks ts c c' rest) :
    CondsToks (ts ++ x) c c' (rest ++ x) := by
  induction h with
  | nil ts c => exact .nil _ _
  | cons hc _ ih => exact .cons (hc.append x) ih

theorem CompoundToks.append {ts rest : List Token} {c : Compound} (h : CompoundToks ts c rest) :
    CompoundToks (ts ++ x) c (rest ++ x) := by
  cases h with
  | typed ht hcs => exact .typed ht (hcs.append x)
  | universal ht hcs => exact .universal ht (hcs.append x)
  | bare hc hcs => exact .bare (hc.append x) (hcs.append x)

theorem LinksToks.append {ts rest : List Token} {ch ch' : Chain} (h : LinksToks ts ch ch' rest) :
    LinksToks (ts ++ x) ch ch' (rest ++ x) := by
  induction h with
  | nil ts ch => exact .nil _ _
  | child h₁ hg h₂ hc _ ih => exact .child (h₁.append x) hg (h₂.append x) (hc.append x) ih
  | descendant ht h₁ hc _ ih => exact .descendant ht (h₁.append x) (hc.append x) ih

end Append

theorem LinksToks.trans {ts r rest : List Token} {ch ch' ch'' : Chain} (h : LinksToks ts ch ch' r)
    (h' : LinksToks r ch' ch'' rest) : LinksToks ts ch ch'' rest := by
  induction h with
  | nil => exact h'
  | child h₁ hg h₂ hc _ ih => exact .child h₁ hg h₂ hc (ih h')
  | descendant ht h₁ hc _ ih => exact .descendant ht h₁ hc (ih h')

/-- The links of a chain read the same under another chain. -/
theorem LinksToks.under {ts rest : List Token} {ch ch' : Chain} (h : LinksToks ts ch ch' rest)
    (base : Chain) : LinksToks ts (ch.under base) (ch'.under base) rest := by
  induction h with
  | nil ts ch => exact .nil _ _
  | child h₁ hg h₂ hc _ ih => exact .child h₁ hg h₂ hc ih
  | descendant ht h₁ hc _ ih => exact .descendant ht h₁ hc ih

/-- The tokens of a selector that reads as one chain: blanks, the chain, blanks. -/
theorem ListToks.single {ts : List Token} {ch : Chain} (h : ListToks ts [ch]) :
    ∃ r₁ r₂, Blanks ts r₁ ∧ ChainToks r₁ ch r₂ ∧ Blanks r₂ [] := by
  cases h with
  | last hb hc hb' => exact ⟨_, _, hb, hc, hb'⟩
  | cons _ _ _ _ hrest => cases hrest

/-- Two selectors of one chain each, with a blank between them, read as the second chain below
the first. -/
theorem ListToks.join {ts us : List Token} {ch ch' : Chain} (h : ListToks ts [ch])
    (h' : ListToks us [ch']) : ListToks (ts ++ spaceToken :: us) [ch'.under ch] := by
  obtain ⟨r₁, r₂, hb₁, ⟨hcomp, hlinks⟩, hb₂⟩ := h.single
  obtain ⟨q₁, q₂, hq₁, ⟨hcomp', hlinks'⟩, hq₂⟩ := h'.single
  have hsp : spaceToken.kind = .whitespace := rfl
  -- after the first chain's trailing blanks and the space, the second chain starts below it
  have hlink : LinksToks (r₂ ++ spaceToken :: us) ch (ch'.under ch) q₂ := by
    cases hb₂ with
    | done => exact .descendant hsp hq₁ hcomp' (hlinks'.under ch)
    | blank ht hb =>
      have hrest : Blanks (_ ++ spaceToken :: us) q₁ :=
        (by simpa using hb.append (spaceToken :: us) : Blanks _ (spaceToken :: us)).trans
          (.blank hsp hq₁)
      exact .descendant ht hrest hcomp' (hlinks'.under ch)
  exact .last (hb₁.append _) ⟨hcomp.append _, (hlinks.append _).trans hlink⟩ hq₂

/-- Selectors of one chain each, with a blank between each two, read as the chains each below
the one before. -/
theorem listToks_nest {ts : List Token} {tss : List (List Token)} {ch : Chain} {chs : List Chain}
    (h : ListToks ts [ch]) (hs : List.Forall₂ (fun us ch' => ListToks us [ch']) tss chs) :
    ListToks ([spaceToken].intercalate (ts :: tss)) [Chain.nest ch chs] := by
  induction hs generalizing ts ch with
  | nil => simpa [Chain.nest] using h
  | @cons us ch' rest chs' hus _ ih =>
    have hjoin : [spaceToken].intercalate (ts :: us :: rest) =
        [spaceToken].intercalate ((ts ++ spaceToken :: us) :: rest) := by
      cases rest <;> simp
    rw [hjoin]
    exact ih (h.join hus)

/-- Keys that each read as one chain, whose joined text's tokens are theirs with a blank between
each two, join to the chains each below the one before. -/
theorem Selector.parse_intercalate {keys : List String} {ch : Chain} {chs : List Chain}
    (hparse : List.Forall₂ (fun key ch => Selector.parse key = .ok ⟨[ch]⟩) keys (ch :: chs))
    (htok : selectorTokens (" ".intercalate keys) = [spaceToken].intercalate (keys.map selectorTokens)) :
    Selector.parse (" ".intercalate keys) = .ok ⟨[Chain.nest ch chs]⟩ := by
  rw [Selector.parse_eq_ok_iff, htok]
  cases hparse with
  | cons hkey hrest =>
    exact listToks_nest (Selector.parse_eq_ok_iff.1 hkey)
      (List.forall₂_map_left_iff.2 (hrest.imp fun _ _ h => Selector.parse_eq_ok_iff.1 h))

/-! ## What nested chains select -/

section Scope

open UtilityStyles.Page (ParentOf ParentsBefore)

variable {p : Page}

/-- `ch.SelectsFrom p i a`: the chain selects element `i` from element `a`, which meets its first
compound selector. -/
inductive Chain.SelectsFrom (p : Page) : Chain → Nat → Nat → Prop
  | single {c : Compound} {i : Nat} : c.Holds (p.view i) → Chain.SelectsFrom p (.single c) i i
  | child {l : Chain} {c : Compound} {i j a : Nat} : c.Holds (p.view i) → p.ParentOf j i →
      Chain.SelectsFrom p l j a → Chain.SelectsFrom p (.child l c) i a
  | descendant {l : Chain} {c : Compound} {i j a : Nat} : c.Holds (p.view i) →
      Relation.TransGen p.ParentOf j i → Chain.SelectsFrom p l j a →
      Chain.SelectsFrom p (.descendant l c) i a

theorem Chain.selectsFrom_single_iff {c : Compound} {i a : Nat} :
    (Chain.single c).SelectsFrom p i a ↔ a = i ∧ c.Holds (p.view i) := by
  constructor
  · intro h
    cases h with
    | single h => exact ⟨rfl, h⟩
  · rintro ⟨rfl, h⟩
    exact .single h

theorem Chain.selectsFrom_child_iff {l : Chain} {c : Compound} {i a : Nat} :
    (Chain.child l c).SelectsFrom p i a ↔
      c.Holds (p.view i) ∧ ∃ j, p.ParentOf j i ∧ l.SelectsFrom p j a := by
  constructor
  · intro h
    cases h with
    | child h hj hl => exact ⟨h, _, hj, hl⟩
  · rintro ⟨h, j, hj, hl⟩
    exact .child h hj hl

theorem Chain.selectsFrom_descendant_iff {l : Chain} {c : Compound} {i a : Nat} :
    (Chain.descendant l c).SelectsFrom p i a ↔
      c.Holds (p.view i) ∧ ∃ j, Relation.TransGen p.ParentOf j i ∧ l.SelectsFrom p j a := by
  constructor
  · intro h
    cases h with
    | descendant h hj hl => exact ⟨h, _, hj, hl⟩
  · rintro ⟨h, j, hj, hl⟩
    exact .descendant h hj hl

/-- A chain selects an element exactly when it selects it from some element. -/
theorem Chain.selects_iff_exists_selectsFrom (ch : Chain) (i : Nat) :
    ch.Selects p i ↔ ∃ a, ch.SelectsFrom p i a := by
  induction ch generalizing i with
  | single c => simp [selects_single_iff, selectsFrom_single_iff]
  | child l c ih =>
    simp only [selects_child_iff, selectsFrom_child_iff, ih]
    constructor
    · rintro ⟨h, j, hj, a, hl⟩
      exact ⟨a, h, j, hj, hl⟩
    · rintro ⟨a, h, j, hj, hl⟩
      exact ⟨h, j, hj, a, hl⟩
  | descendant l c ih =>
    simp only [selects_descendant_iff, selectsFrom_descendant_iff, ih]
    constructor
    · rintro ⟨h, j, hj, a, hl⟩
      exact ⟨a, h, j, hj, hl⟩
    · rintro ⟨a, h, j, hj, hl⟩
      exact ⟨h, j, hj, a, hl⟩

/-- A chain under another selects what it selects from an element with an ancestor that the
other selects. -/
theorem Chain.selects_under_iff (ch base : Chain) (i : Nat) :
    (ch.under base).Selects p i ↔
      ∃ a, ch.SelectsFrom p i a ∧ ∃ b, Relation.TransGen p.ParentOf b a ∧ base.Selects p b := by
  induction ch generalizing i with
  | single c =>
    simp only [under, selects_descendant_iff, selectsFrom_single_iff]
    constructor
    · rintro ⟨h, b, hb, hs⟩
      exact ⟨i, ⟨rfl, h⟩, b, hb, hs⟩
    · rintro ⟨a, ⟨rfl, h⟩, b, hb, hs⟩
      exact ⟨h, b, hb, hs⟩
  | child l c ih =>
    simp only [under, selects_child_iff, selectsFrom_child_iff, ih]
    constructor
    · rintro ⟨h, j, hj, a, hl, b, hb, hs⟩
      exact ⟨a, ⟨h, j, hj, hl⟩, b, hb, hs⟩
    · rintro ⟨a, ⟨h, j, hj, hl⟩, b, hb, hs⟩
      exact ⟨h, j, hj, a, hl, b, hb, hs⟩
  | descendant l c ih =>
    simp only [under, selects_descendant_iff, selectsFrom_descendant_iff, ih]
    constructor
    · rintro ⟨h, j, hj, a, hl, b, hb, hs⟩
      exact ⟨a, ⟨h, j, hj, hl⟩, b, hb, hs⟩
    · rintro ⟨a, ⟨h, j, hj, hl⟩, b, hb, hs⟩
      exact ⟨h, j, hj, a, hl, b, hb, hs⟩

/-- The elements that chains select each below the next, innermost first: the outermost chain
selects on its own, and each chain inside selects from an element with an ancestor that the
chains outside it select. -/
inductive ScopedBy (p : Page) : List Chain → Nat → Prop
  | outermost {ch : Chain} {i : Nat} : ch.Selects p i → ScopedBy p [ch] i
  | inner {ch : Chain} {outer : List Chain} {i a b : Nat} : ch.SelectsFrom p i a →
      Relation.TransGen p.ParentOf b a → ScopedBy p outer b → ScopedBy p (ch :: outer) i

theorem scopedBy_singleton_iff {ch : Chain} {i : Nat} : ScopedBy p [ch] i ↔ ch.Selects p i := by
  constructor
  · intro h
    cases h with
    | outermost h => exact h
    | inner _ _ h => cases h
  · exact .outermost

theorem scopedBy_cons_iff {ch : Chain} {outer : List Chain} {i : Nat} (ho : outer ≠ []) :
    ScopedBy p (ch :: outer) i ↔
      ∃ a, ch.SelectsFrom p i a ∧ ∃ b, Relation.TransGen p.ParentOf b a ∧ ScopedBy p outer b := by
  constructor
  · intro h
    cases h with
    | outermost => exact absurd rfl ho
    | inner ha hb hs => exact ⟨_, ha, _, hb, hs⟩
  · rintro ⟨a, ha, b, hb, hs⟩
    exact .inner ha hb hs

/-- Chains nested each below the one before select the elements they scope, innermost first. -/
theorem Chain.selects_nest_iff (ch : Chain) (chs : List Chain) (i : Nat) :
    (Chain.nest ch chs).Selects p i ↔ ScopedBy p (ch :: chs).reverse i := by
  induction chs using List.reverseRecOn generalizing i with
  | nil => simp [nest, scopedBy_singleton_iff]
  | append_singleton chs last ih =>
    rw [nest, List.foldl_append, List.foldl_cons, List.foldl_nil, ← nest, selects_under_iff,
      ← List.cons_append, List.reverse_append, List.reverse_singleton, List.singleton_append,
      scopedBy_cons_iff (by simp)]
    simp only [ih]

end Scope

end Css


/-! ## Declaring nested maps -/

open Css (Chain Selector ScopedBy selectorTokens spaceToken)

/-- A selector text that reads as chains each below the one before picks, in document order,
exactly the elements the chains scope. -/
theorem Page.query_nest {p : Page} (hp : p.ParentsBefore) {source : String} {ch : Chain}
    {chs : List Chain} (h : Selector.parse source = .ok ⟨[Chain.nest ch chs]⟩) :
    p.query source = .ok (p.select ⟨[Chain.nest ch chs]⟩) ∧
      (p.select ⟨[Chain.nest ch chs]⟩).Pairwise (· < ·) ∧
      ∀ i, i ∈ p.select ⟨[Chain.nest ch chs]⟩ ↔ i < p.size ∧ ScopedBy p (ch :: chs).reverse i := by
  refine ⟨Page.query_of_parse h, Css.select_sorted _, fun i => ?_⟩
  rw [Css.mem_select_iff hp]
  simp [Chain.selects_nest_iff]

/-- Every leaf of bulk declarations has a key, and is not a map. -/
theorem Session.mem_declLeaves {decls : List (List (String × Config.Value))}
    {leaf : List String × Config.Value} (h : leaf ∈ Session.declLeaves decls) :
    leaf.1 ≠ [] ∧ ∀ ms, leaf.2 ≠ .map ms := by
  obtain ⟨d, -, hd⟩ := List.mem_flatMap.1 h
  refine ⟨?_, Config.Value.not_map_of_mem_leaves _ leaf hd⟩
  rw [Config.Value.leaves_map] at hd
  obtain ⟨m, -, hm⟩ := List.mem_flatMap.1 hd
  obtain ⟨l, -, rfl⟩ := List.mem_map.1 hm
  exact List.cons_ne_nil _ _

/-- **Nested declarations.** Bulk declarations declare their leaves in order, each map's keys
sorted, and each leaf on the session the ones before it left. Every leaf has a key and is not a
map. A leaf that is not a class string, or whose joined keys do not read as a selector, leaves
the page as it was and adds one error. When the keys each read alone as one chain and the joined
text's tokens are theirs with a blank between each two, the leaf's classes are applied, in
document order, to exactly the elements that the innermost key selects from an element with an
ancestor that the keys outside it select in the same way, out to the first key. -/
theorem nested_declarations_apply_to_scoped_elements (s : Session)
    (decls : List (List (String × Config.Value))) :
    ((s.makeStyles decls).1, (s.makeStyles decls).2.2) =
      (Session.declLeaves decls).foldl Session.declareLeaf (s, []) ∧
    ∀ leaf ∈ Session.declLeaves decls, leaf.1 ≠ [] ∧ (∀ ms, leaf.2 ≠ .map ms) ∧
      ∀ (t : Session) (errs : List DeclareError),
        ((∀ cls, leaf.2 ≠ .str cls) → (Session.declareLeaf (t, errs) leaf).1.page = t.page ∧
          ∃ e, (Session.declareLeaf (t, errs) leaf).2 = errs ++ [e]) ∧
        (∀ cls e, leaf.2 = .str cls → t.page.query (" ".intercalate leaf.1) = .error e →
          Session.declareLeaf (t, errs) leaf = (t, errs ++ [.invalidSelector (" ".intercalate leaf.1) e])) ∧
        (t.page.ParentsBefore → ∀ (ch : Chain) (chs : List Chain),
          List.Forall₂ (fun key ch => Selector.parse key = .ok ⟨[ch]⟩) leaf.1 (ch :: chs) →
          selectorTokens (" ".intercalate leaf.1) =
            [spaceToken].intercalate (leaf.1.map selectorTokens) →
          ∀ cls, leaf.2 = .str cls → ∃ els : List Nat, els.Pairwise (· < ·) ∧
            (∀ i, i ∈ els ↔ i < t.page.size ∧ ScopedBy t.page (ch :: chs).reverse i) ∧
            Session.declareLeaf (t, errs) leaf = (els.foldl (fun u el => (u.applyMulti el cls).1) t, errs)) := by
  refine ⟨Session.makeStyles_eq_leaves s decls, fun leaf hleaf => ?_⟩
  obtain ⟨hpath, hnotmap⟩ := Session.mem_declLeaves hleaf
  obtain ⟨path, v⟩ := leaf
  refine ⟨hpath, hnotmap, fun t errs => ⟨fun hv => ?_, fun cls e hv he => ?_, ?_⟩⟩
  · -- a refused value only logs
    rw [Session.declareLeaf_refused hv]
    exact ⟨rfl, _, rfl⟩
  · dsimp only at hv
    subst hv
    exact Session.declareLeaf_str_error he
  · intro hp ch chs hparse htok cls hv
    dsimp only at hv hparse htok ⊢
    subst hv
    -- the joined keys read as the keys' chains nested, so the leaf applies to what they scope
    obtain ⟨hquery, hsorted, hmem⟩ := Page.query_nest hp (Selector.parse_intercalate hparse htok)
    exact ⟨_, hsorted, hmem, Session.declareLeaf_str_ok hquery⟩

theorem nested_declarations_apply_to_scoped_elements_div_p :
    (["div", "p"], Config.Value.str "p-1px") ∈
        Session.declLeaves [[("div", .map [("p", .str "p-1px")])]] ∧
      ∃ els : List Nat, els.Pairwise (· < ·) ∧
        (∀ i, i ∈ els ↔ i < 2 ∧ ScopedBy ⟨[], #[⟨⟨"", "div"⟩, none, [], ⟨[]⟩⟩, ⟨⟨"", "p"⟩, some 0, [], ⟨[]⟩⟩]⟩
          [.single ⟨some "p", none, [], []⟩, .single ⟨some "div", none, [], []⟩] i) ∧
        Session.declareLeaf (Session.start ⟨[("p", ["padding"])]⟩ ⟨[]⟩ none
            ⟨[], #[⟨⟨"", "div"⟩, none, [], ⟨[]⟩⟩, ⟨⟨"", "p"⟩, some 0, [], ⟨[]⟩⟩]⟩, [])
            (["div", "p"], .str "p-1px") =
          (els.foldl (fun u el => (u.applyMulti el "p-1px").1) (Session.start ⟨[("p", ["padding"])]⟩
            ⟨[]⟩ none ⟨[], #[⟨⟨"", "div"⟩, none, [], ⟨[]⟩⟩, ⟨⟨"", "p"⟩, some 0, [], ⟨[]⟩⟩]⟩), []) := by
  have hmem : (["div", "p"], Config.Value.str "p-1px") ∈
      Session.declLeaves [[("div", .map [("p", .str "p-1px")])]] := by
    simp [Session.declLeaves, Config.Value.leaves_map, sortByKey,
      Config.Value.leaves_of_not_map (v := .str "p-1px") (fun _ h => by cases h)]
  obtain ⟨-, -, hleaf⟩ := (nested_declarations_apply_to_scoped_elements
    (Session.start ⟨[("p", ["padding"])]⟩ ⟨[]⟩ none
      ⟨[], #[⟨⟨"", "div"⟩, none, [], ⟨[]⟩⟩, ⟨⟨"", "p"⟩, some 0, [], ⟨[]⟩⟩]⟩)
    [[("div", .map [("p", .str "p-1px")])]]).2 _ hmem
  exact ⟨hmem, (hleaf (Session.start ⟨[("p", ["padding"])]⟩ ⟨[]⟩ none
      ⟨[], #[⟨⟨"", "div"⟩, none, [], ⟨[]⟩⟩, ⟨⟨"", "p"⟩, some 0, [], ⟨[]⟩⟩]⟩) []).2.2 (by decide)
    (.single ⟨some "div", none, [], []⟩)
    [.single ⟨some "p", none, [], []⟩] (.cons rfl (.cons rfl .nil)) rfl "p-1px" rfl⟩

/-- The key `a, b` reads as two chains, so with `c` inside it the leaf's keys join to `a, b c`:
that picks the `a` (element 1) as well as the `c` below the `b` (element 3). -/
theorem selector_list_key_escapes_scope :
    Selector.parse "a, b" =
        .ok ⟨[.single ⟨some "a", none, [], []⟩, .single ⟨some "b", none, [], []⟩]⟩ ∧
      (["a, b", "c"], Config.Value.str "p-1px") ∈
        Session.declLeaves [[("a, b", .map [("c", .str "p-1px")])]] ∧
      (⟨[], #[⟨⟨"", "div"⟩, none, [], ⟨[]⟩⟩, ⟨⟨"", "a"⟩, some 0, [], ⟨[]⟩⟩,
          ⟨⟨"", "b"⟩, some 0, [], ⟨[]⟩⟩, ⟨⟨"", "c"⟩, some 2, [], ⟨[]⟩⟩]⟩ : Page).query
        (" ".intercalate ["a, b", "c"]) = .ok [1, 3] := by
  refine ⟨rfl, ?_, rfl⟩
  simp [Session.declLeaves, Config.Value.leaves_map, sortByKey,
    Config.Value.leaves_of_not_map (v := .str "p-1px") (fun _ h => by cases h)]

end UtilityStyles
