import UtilityStyles.Proofs.StyleMap
import UtilityStyles.Proofs.LiveWrites
import UtilityStyles.Proofs.ApplyCounts
import Mathlib
/-!
# Inline styles are ordered maps

An inline style holds each property at most once, with a value that is neither empty nor
surrounded by blanks (`InlineStyle.WellFormed`). The empty style is well formed and setting a
property keeps it so. Reading a style attribute sets its declarations in turn, so every style
read from an attribute, and every style reached from one by setting properties, is well formed.

On such a style `get` reads the one value stored for a property. Setting a property is a map
update that keeps the order of the declarations: the other declarations keep their values and
their order, and the property keeps its place when it stays, leaves when its trimmed value is
empty, and goes at the end when it is new.

An element's style attribute follows its style: after a write it holds the style's text, and it
is gone exactly when no declaration is left. This rests on each attribute name standing once on
an element, which reading a document gives (a repeated attribute replaces the earlier one) and
writing a style keeps.

## Main definitions

* `InlineStyle.properties`, `InlineStyle.WellFormed`.
* `Page.Element.styleAttr`, `Page.AttrsDistinct`.

## Main statements

* `InlineStyle.WellFormed.set`, `InlineStyle.wellFormed_ofAttr` : the invariant.
* `InlineStyle.WellFormed.get_eq_iff`, `InlineStyle.properties_set`, `InlineStyle.filter_set` :
  reading and setting.
* `Page.load_attrsDistinct`, `Page.styleAttr_setStyle` : the style attribute.
* `inline_style_ordered_map` : all of it, for every style read and then set.
-/

namespace UtilityStyles

open UtilityStyles.Text (trimBlank)

namespace Css.InlineStyle

/-- The properties of a style, in order. -/
def properties (s : InlineStyle) : List String := s.decls.map Prod.fst

/-- A well-formed style: each property once, each value non-empty and without surrounding
blanks. -/
structure WellFormed (s : InlineStyle) : Prop where
  nodup : s.properties.Nodup
  value_ne : ∀ d ∈ s.decls, d.2 ≠ ""
  value_trim : ∀ d ∈ s.decls, trimBlank d.2 = d.2

variable {s : InlineStyle}

theorem mem_properties {p : String} : p ∈ s.properties ↔ s.decls.any (·.1 == p) := by
  simp [properties]

theorem wellFormed_empty : empty.WellFormed :=
  ⟨List.nodup_nil, by simp [empty], by simp [empty]⟩

/-- What setting a property does, by whether the property is there and whether its trimmed
value is empty: remove it, replace its value in place, nothing, or append it. -/
theorem set_cases (s : InlineStyle) (p v : String) :
    (p ∈ s.properties ∧ trimBlank v = "" ∧ s.set p v = ⟨s.decls.filter (·.1 != p)⟩) ∨
    (p ∈ s.properties ∧ trimBlank v ≠ "" ∧
      s.set p v = ⟨s.decls.map fun d => if d.1 == p then (d.1, trimBlank v) else d⟩) ∨
    (p ∉ s.properties ∧ trimBlank v = "" ∧ s.set p v = s) ∨
    (p ∉ s.properties ∧ trimBlank v ≠ "" ∧ s.set p v = ⟨s.decls ++ [(p, trimBlank v)]⟩) := by
  unfold set
  by_cases hp : s.decls.any (·.1 == p) <;> by_cases hv : trimBlank v = "" <;>
    simp [mem_properties, hp, hv]

/-- Setting a property: it leaves when its trimmed value is empty, keeps its place when it is
there, and goes at the end when it is new. -/
theorem properties_set (s : InlineStyle) (p v : String) :
    (s.set p v).properties =
      if trimBlank v = "" then s.properties.filter (· != p)
      else if p ∈ s.properties then s.properties else s.properties ++ [p] := by
  rcases set_cases s p v with ⟨hp, hv, h⟩ | ⟨hp, hv, h⟩ | ⟨hp, hv, h⟩ | ⟨hp, hv, h⟩ <;> rw [h]
  · simp [hv, properties, List.filter_map, Function.comp_def]
  · rw [if_neg hv, if_pos hp]
    simp only [properties, List.map_map]
    congr 1
    funext d
    simp only [Function.comp_apply]
    split <;> rfl
  · have hfilter : s.properties.filter (· != p) = s.properties :=
      List.filter_eq_self.2 fun q hq => by
        have : q ≠ p := fun hqp => hp (hqp ▸ hq)
        simpa using this
    simp [hv, hfilter]
  · rw [if_neg hv, if_neg hp]
    simp [properties]

/-- Setting a property keeps every other declaration, with its value, in its order. -/
theorem filter_set (s : InlineStyle) (p v : String) :
    (s.set p v).decls.filter (·.1 != p) = s.decls.filter (·.1 != p) := by
  rcases set_cases s p v with ⟨-, -, h⟩ | ⟨-, -, h⟩ | ⟨-, -, h⟩ | ⟨-, -, h⟩ <;> rw [h]
  · simp [List.filter_filter]
  · -- the replaced declarations are those of `p`, which the filter drops on both sides
    dsimp only
    rw [List.filter_map]
    have hkeep : ((fun d : String × String => d.1 != p) ∘
        fun d => if d.1 == p then (d.1, trimBlank v) else d) = fun d => d.1 != p := by
      funext d
      by_cases hd : d.1 = p <;> simp [hd]
    rw [hkeep]
    refine (List.map_congr_left fun d hd => ?_).trans (List.map_id _)
    have hne : d.1 ≠ p := by simpa using (List.mem_filter.1 hd).2
    simp [hne]
  · simp

theorem WellFormed.set (h : s.WellFormed) (p v : String) : (s.set p v).WellFormed := by
  have hnodup : (s.set p v).properties.Nodup := by
    rw [properties_set]
    split
    · exact h.nodup.filter _
    · split
      · exact h.nodup
      · rename_i hp
        exact h.nodup.append (List.nodup_singleton p) (by simpa using hp)
  rcases set_cases s p v with ⟨-, -, hs⟩ | ⟨-, hv, hs⟩ | ⟨-, -, hs⟩ | ⟨-, hv, hs⟩ <;>
    rw [hs] at hnodup ⊢
  · exact ⟨hnodup, fun d hd => h.value_ne d (List.mem_filter.1 hd).1,
      fun d hd => h.value_trim d (List.mem_filter.1 hd).1⟩
  · -- a declaration is either the one replaced, with the trimmed value, or an old one
    have hmem : ∀ d ∈ (⟨s.decls.map fun d => if d.1 == p then (d.1, trimBlank v) else d⟩ :
        InlineStyle).decls, d.2 = trimBlank v ∨ d ∈ s.decls := by
      intro d hd
      obtain ⟨e, he, rfl⟩ := List.mem_map.1 hd
      split
      · exact .inl rfl
      · exact .inr he
    refine ⟨hnodup, fun d hd => ?_, fun d hd => ?_⟩
    · rcases hmem d hd with hd' | hd'
      · rw [hd']; exact hv
      · exact h.value_ne d hd'
    · rcases hmem d hd with hd' | hd'
      · rw [hd', Text.trimBlank_trimBlank]
      · exact h.value_trim d hd'
  · exact h
  · refine ⟨hnodup, fun d hd => ?_, fun d hd => ?_⟩
    · rcases List.mem_append.1 hd with hd' | hd'
      · exact h.value_ne d hd'
      · rw [List.mem_singleton.1 hd']; exact hv
    · rcases List.mem_append.1 hd with hd' | hd'
      · exact h.value_trim d hd'
      · rw [List.mem_singleton.1 hd', Text.trimBlank_trimBlank]

/-- Setting properties in turn keeps a style well formed. -/
theorem WellFormed.foldl_set (h : s.WellFormed) (sets : List (String × String)) :
    (sets.foldl (fun s w => s.set w.1 w.2) s).WellFormed := by
  induction sets generalizing s with
  | nil => exact h
  | cons w rest ih => exact ih (h.set w.1 w.2)

/-- Every style read from an attribute is well formed, whatever the attribute holds. -/
theorem wellFormed_ofAttr (attr : String) : (ofAttr attr).WellFormed :=
  wellFormed_empty.foldl_set _

/-- In a list of pairs whose first parts are distinct, the first pair with a key is the one
pair with it. -/
theorem keyedValue_of_mem {l : List (String × String)} (hl : (l.map Prod.fst).Nodup)
    {k v : String} (hkv : (k, v) ∈ l) (d : String) : keyedValue l k d = v := by
  induction l with
  | nil => simp at hkv
  | cons e l ih =>
    rw [List.map_cons, List.nodup_cons] at hl
    rw [keyedValue_cons]
    rcases List.mem_cons.1 hkv with rfl | hkv'
    · simp
    · have hne : e.1 ≠ k := fun he => hl.1 (he ▸ List.mem_map_of_mem hkv')
      rw [if_neg hne, ih hl.2 hkv']

/-- On a well-formed style, `get` reads the value stored for a property, and the empty text for
a property that is not there. -/
theorem WellFormed.get_eq_iff (h : s.WellFormed) (p v : String) :
    s.get p = v ↔ (p, v) ∈ s.decls ∨ (p ∉ s.properties ∧ v = "") := by
  rw [get_eq_keyedValue]
  by_cases hp : p ∈ s.properties
  · obtain ⟨⟨q, w⟩, hw, rfl⟩ := List.mem_map.1 hp
    rw [keyedValue_of_mem h.nodup hw]
    constructor
    · rintro rfl
      exact .inl hw
    · rintro (hv | ⟨hq, -⟩)
      · exact (Prod.ext_iff.1 (List.inj_on_of_nodup_map h.nodup hw hv rfl)).2
      · exact absurd (List.mem_map_of_mem hw) hq
  · rw [keyedValue_of_not_any (by simpa [mem_properties] using hp)]
    have hnot : (p, v) ∉ s.decls := fun hv => hp (List.mem_map_of_mem (f := Prod.fst) hv)
    simp [hnot, hp, eq_comm]

end Css.InlineStyle

/-! ## Attribute names stand once -/

namespace Markup

/-- Every element of a tree has each attribute name once. -/
inductive Node.AttrsDistinct : Node → Prop
  | element {name : QName} {attrs : List Attr} {children : List Node} :
      (attrs.map (·.name)).Nodup → (∀ c ∈ children, Node.AttrsDistinct c) →
      Node.AttrsDistinct (.element name attrs children)
  | text (data : String) : Node.AttrsDistinct (.text data)
  | comment (data : String) : Node.AttrsDistinct (.comment data)
  | directive (data : String) : Node.AttrsDistinct (.directive data)
  | instruction (target data : String) : Node.AttrsDistinct (.instruction target data)

/-- Merging a start tag's attributes leaves each name once: a repeated name replaces the value
of the one already there. -/
theorem nodup_mergeAttrs {acc : List Attr} (h : (acc.map (·.name)).Nodup) (as : List Attr) :
    ((mergeAttrs acc as).map (·.name)).Nodup := by
  induction as generalizing acc with
  | nil => exact h
  | cons a rest ih =>
    unfold mergeAttrs
    split
    · apply ih
      have hnames : (acc.map fun b => if b.name == a.name then { b with value := a.value } else b).map
          (·.name) = acc.map (·.name) := by
        simp only [List.map_map]
        congr 1
        funext b
        simp only [Function.comp_apply]
        split <;> rfl
      rwa [hnames]
    · rename_i hnew
      apply ih
      rw [List.map_append]
      exact h.append (List.nodup_singleton _) (by simpa using hnew)

/-- The reader's open elements and finished nodes have each attribute name once per element. -/
def ReadDistinct (stack : List Frame) (top : List Node) : Prop :=
  (∀ f ∈ stack, (f.attrs.map (·.name)).Nodup ∧ ∀ c ∈ f.children, c.AttrsDistinct) ∧
    ∀ n ∈ top, n.AttrsDistinct

section Reading

variable {stack : List Frame} {top : List Node}

theorem ReadDistinct.addNode (h : ReadDistinct stack top) {n : Node} (hn : n.AttrsDistinct) :
    ReadDistinct (Markup.addNode n stack top).1 (Markup.addNode n stack top).2 := by
  unfold Markup.addNode
  split
  · exact ⟨by simp, fun m hm => (List.mem_cons.1 hm).elim (· ▸ hn) (h.2 m)⟩
  · rename_i f rest
    refine ⟨fun g hg => ?_, h.2⟩
    rcases List.mem_cons.1 hg with rfl | hg
    · exact ⟨(h.1 f List.mem_cons_self).1, fun c hc =>
        (List.mem_cons.1 hc).elim (· ▸ hn) ((h.1 f List.mem_cons_self).2 c)⟩
    · exact h.1 g (List.mem_cons_of_mem _ hg)

theorem ReadDistinct.closeFrame {f : Frame} (h : ReadDistinct (f :: stack) top) :
    ReadDistinct (Markup.closeFrame f stack top).1 (Markup.closeFrame f stack top).2 := by
  have hf := h.1 f List.mem_cons_self
  exact ReadDistinct.addNode ⟨fun g hg => h.1 g (List.mem_cons_of_mem _ hg), h.2⟩
    (.element hf.1 fun c hc => hf.2 c (List.mem_reverse.1 hc))

theorem ReadDistinct.applyToken (h : ReadDistinct stack top) {t : Token}
    {st : List Frame × List Node} (ht : Markup.applyToken t stack top = .ok st) :
    ReadDistinct st.1 st.2 := by
  unfold Markup.applyToken at ht
  -- a start tag opens a frame with merged attributes; every other token adds a leaf or closes
  have hopen : ∀ (name : QName) (attrs : List Attr),
      ReadDistinct (⟨name, mergeAttrs [] attrs, []⟩ :: stack) top := fun name attrs =>
    ⟨fun g hg => (List.mem_cons.1 hg).elim (fun hg => hg ▸ ⟨@nodup_mergeAttrs [] List.nodup_nil attrs,
      by simp⟩) (h.1 g), h.2⟩
  split at ht
  · rename_i name attrs selfClosing
    split at ht
    · cases ht
      exact (hopen name attrs).closeFrame
    · cases ht
      exact hopen name attrs
  · split at ht
    · rename_i f rest
      split at ht
      · cases ht
        exact h.closeFrame
      · cases ht
    · cases ht
  all_goals
    cases ht
    exact h.addNode (by constructor)

theorem readLoop_attrsDistinct {entities : List (String × String)} {fuel : Nat} {cur : Cursor}
    {nodes : List Node} (h : ReadDistinct stack top)
    (hr : readLoop entities fuel stack top cur = .ok nodes) : ∀ n ∈ nodes, n.AttrsDistinct := by
  induction fuel generalizing stack top cur with
  | zero =>
    cases hr
    exact fun n hn => h.2 n (List.mem_reverse.1 hn)
  | succ fuel ih =>
    unfold readLoop at hr
    split at hr
    · cases hr
    · split at hr
      · cases hr
        exact fun n hn => h.2 n (List.mem_reverse.1 hn)
      · cases hr
    · split at hr
      · cases hr
      · rename_i t cur' _ stack' top' ht
        exact ih (h.applyToken ht) hr

/-- Every element of a document as read has each attribute name once. -/
theorem readNodes_attrsDistinct {entities : List (String × String)} {text : String}
    {nodes : List Node} (h : readNodes entities text = .ok nodes) :
    ∀ n ∈ nodes, n.AttrsDistinct :=
  readLoop_attrsDistinct ⟨by simp, by simp⟩ h

end Reading

end Markup

namespace Page

open UtilityStyles.Markup (QName Attr Node)

/-- Every element of a page has each attribute name once. -/
def AttrsDistinct (p : Page) : Prop := ∀ i, ((p.get i).attrs.map (·.name)).Nodup

/-- Elements, each with each attribute name once. -/
def ElementsDistinct (es : Array Page.Element) : Prop :=
  ∀ i, ((es.getD i default).attrs.map (·.name)).Nodup

theorem ElementsDistinct.push {es : Array Page.Element} (h : ElementsDistinct es)
    {e : Page.Element} (he : (e.attrs.map (·.name)).Nodup) : ElementsDistinct (es.push e) := by
  intro i
  simp only [Array.getD_eq_getD_getElem?, Array.getElem?_push]
  split
  · exact he
  · simpa [Array.getD_eq_getD_getElem?] using h i

/-- Collecting the elements of a tree whose elements have each attribute name once. -/
theorem collectNode_distinct (n : Node) :
    n.AttrsDistinct → ∀ parent acc, ElementsDistinct acc →
      ElementsDistinct (Page.collectNode parent acc n) := by
  -- induction over the node and the lists of children in it
  refine @Markup.Node.rec (fun n => n.AttrsDistinct → ∀ parent acc, ElementsDistinct acc →
      ElementsDistinct (Page.collectNode parent acc n))
    (fun ns => (∀ c ∈ ns, c.AttrsDistinct) → ∀ parent acc, ElementsDistinct acc →
      ElementsDistinct (Page.collectAll parent acc ns))
    ?element ?text ?comment ?directive ?instruction ?nil ?cons n
  case element =>
    intro name attrs children ih hn parent acc hacc
    cases hn with
    | element hattrs hchildren =>
      rw [Page.collectNode]
      exact ih hchildren _ _ (hacc.push hattrs)
  case text => exact fun _ _ _ _ hacc => hacc
  case comment => exact fun _ _ _ _ hacc => hacc
  case directive => exact fun _ _ _ _ hacc => hacc
  case instruction => exact fun _ _ _ _ _ hacc => hacc
  case nil => exact fun _ _ _ hacc => hacc
  case cons =>
    intro n rest hn hrest hall parent acc hacc
    rw [Page.collectAll]
    exact hrest (fun c hc => hall c (List.mem_cons_of_mem _ hc)) _ _
      (hn (hall n List.mem_cons_self) _ _ hacc)

theorem mem_of_rootOf_eq_some {nodes : List Node} {root : Node} (h : Page.rootOf nodes = some root) :
    root ∈ nodes := by
  induction nodes with
  | nil => cases h
  | cons n rest ih =>
    unfold Page.rootOf at h
    split at h
    · cases h
      exact List.mem_cons_self
    · exact List.mem_cons_of_mem _ (ih h)

/-- On a loaded page every element has each attribute name once. -/
theorem load_attrsDistinct {text : String} {p : Page} (h : Page.load text = .ok p) :
    p.AttrsDistinct := by
  unfold Page.load at h
  split at h
  · cases h
  · rename_i nodes hnodes
    split at h
    · cases h
    · rename_i root hroot
      cases h
      have hempty : ElementsDistinct #[] := fun i => by
        simp only [Array.getD_eq_getD_getElem?, List.getElem?_toArray, List.getElem?_nil,
          Option.getD_none]
        exact List.nodup_nil
      exact collectNode_distinct root
        (Markup.readNodes_attrsDistinct hnodes root (mem_of_rootOf_eq_some hroot)) none #[] hempty

/-! ## The style attribute follows the style -/

/-- The value of an element's attribute named exactly `style`, the one its style is written to. -/
def Element.styleAttr (e : Page.Element) : Option String :=
  (e.attrs.find? (·.name == QName.ofKey "style")).map (·.value)

/-- Setting an attribute keeps the names there and adds its own at the end when it is new. -/
theorem names_put (attrs : List Attr) (key value : String) :
    (Attr.put attrs key value).map (·.name) =
      if attrs.any (·.name == QName.ofKey key) then attrs.map (·.name)
      else attrs.map (·.name) ++ [QName.ofKey key] := by
  unfold Attr.put
  dsimp only
  by_cases hany : attrs.any (·.name == QName.ofKey key)
  · rw [if_pos hany, if_pos hany, List.map_map]
    congr 1
    funext a
    simp only [Function.comp_apply]
    split <;> rfl
  · rw [if_neg hany, if_neg hany]
    simp

/-- After setting an attribute, its name reads the value set. -/
theorem find?_put (attrs : List Attr) (key value : String) :
    ((Attr.put attrs key value).find? (·.name == QName.ofKey key)).map (·.value) = some value := by
  unfold Attr.put
  dsimp only
  by_cases hany : attrs.any (·.name == QName.ofKey key)
  · rw [if_pos hany]
    obtain ⟨a, ha, hname⟩ := List.any_eq_true.1 hany
    rw [List.find?_map]
    -- the value is replaced on every attribute of the name, so the first one found reads it
    have hkeep : ((fun a : Attr => a.name == QName.ofKey key) ∘
        fun a => if a.name == QName.ofKey key then { a with value := value } else a) =
        fun a => a.name == QName.ofKey key := by
      funext b
      simp only [Function.comp_apply]
      split <;> simp_all
    rw [hkeep]
    obtain ⟨b, hb⟩ := Option.isSome_iff_exists.1
      (List.find?_isSome.2 ⟨a, ha, hname⟩ : (attrs.find? (·.name == QName.ofKey key)).isSome)
    have hbname : b.name = QName.ofKey key :=
      beq_iff_eq.1 (List.find?_some (p := fun x : Attr => x.name == QName.ofKey key) hb)
    simp [hb, hbname]
  · rw [if_neg hany]
    have hfind : attrs.find? (·.name == QName.ofKey key) = none :=
      List.find?_eq_none.2 fun a ha hname => hany (List.any_eq_true.2 ⟨a, ha, hname⟩)
    simp [List.find?_append, hfind]

theorem remove_sublist (attrs : List Attr) (key : String) : (Attr.remove attrs key).Sublist attrs := by
  induction attrs with
  | nil => exact List.Sublist.slnil
  | cons a rest ih =>
    unfold Attr.remove
    split
    · exact List.sublist_cons_self a rest
    · exact ih.cons_cons a

/-- Removing an attribute of a list that has each name once leaves none of its name. -/
theorem find?_remove {attrs : List Attr} (h : (attrs.map (·.name)).Nodup) (key : String) :
    (Attr.remove attrs key).find? (·.name == QName.ofKey key) = none := by
  induction attrs with
  | nil => rfl
  | cons a rest ih =>
    rw [List.map_cons, List.nodup_cons] at h
    unfold Attr.remove
    split
    · rename_i ha
      -- the name stood on `a` alone
      refine List.find?_eq_none.2 fun b hb hname => h.1 ?_
      rw [beq_iff_eq.1 ha, ← beq_iff_eq.1 hname]
      exact List.mem_map_of_mem hb
    · rename_i ha
      simp [ha, ih h.2]

/-- Writing a style changes only the written element: its style is set, and its style attribute
is written back, or removed when no declaration is left. -/
theorem get_setStyle (p : Page) (i : Nat) (prop v : String) (j : Nat) :
    (p.setStyle i prop v).get j =
      if j = i ∧ i < p.size then
        { p.get i with
          style := (p.get i).style.set prop v
          attrs := if ((p.get i).style.set prop v).size == 0 then Attr.remove (p.get i).attrs "style"
            else Attr.put (p.get i).attrs "style" ((p.get i).style.set prop v).render }
      else p.get j := by
  unfold setStyle
  split
  · rename_i h
    simp only [get, Array.getD, Array.size_set]
    by_cases hj : j = i
    · subst hj
      simp [h, size]
    · simp [hj, Array.getElem_set]
      grind
  · rename_i h
    have : ¬ (j = i ∧ i < p.size) := fun hj => h hj.2
    rw [if_neg this]

theorem AttrsDistinct.setStyle {p : Page} (h : p.AttrsDistinct) (i : Nat) (prop v : String) :
    (p.setStyle i prop v).AttrsDistinct := by
  intro j
  rw [get_setStyle]
  split
  · rename_i hj
    obtain ⟨rfl, -⟩ := hj
    dsimp only
    split
    · exact (h j).sublist ((remove_sublist _ _).map _)
    · rw [names_put]
      split
      · exact h j
      · rename_i hnew
        exact (h j).append (List.nodup_singleton _) (by simpa using hnew)
  · exact h j

/-- After a write, an element whose attributes have each name once holds its style's text in
its style attribute, and has no style attribute exactly when no declaration is left. -/
theorem styleAttr_setStyle {p : Page} {i : Nat} (hi : i < p.size)
    (hd : ((p.get i).attrs.map (·.name)).Nodup) (prop v : String) :
    ((p.setStyle i prop v).get i).styleAttr =
      if ((p.get i).style.set prop v).decls = [] then none
      else some ((p.get i).style.set prop v).render := by
  rw [get_setStyle, if_pos ⟨rfl, hi⟩]
  simp only [Element.styleAttr, Css.InlineStyle.size, beq_iff_eq, List.length_eq_zero_iff]
  split
  · rw [find?_remove hd]
    rfl
  · exact find?_put _ _ _

end Page

open Css (InlineStyle) in
/-- **Inline styles are ordered maps.** Read any style attribute and set any properties in
turn. The style holds each property once, with a non-empty trimmed value, and `get` reads the
value stored for a property, or the empty text. Setting `p` to `v` then makes `p` read `v`
trimmed and every other property read as before; it keeps the other declarations with their
values in their order, keeps `p` in its place when it stays, removes it when `v` trims to
nothing, and appends it when it is new. Writing the style of an element whose attributes have
each name once (as on every loaded page, and after every write) sets its style so, keeps the
names distinct, and leaves the style's text in the style attribute, which is gone exactly when
no declaration is left. -/
theorem inline_style_ordered_map (attr : String) (sets : List (String × String)) :
    let s := sets.foldl (fun s w => s.set w.1 w.2) (InlineStyle.ofAttr attr)
    s.WellFormed ∧
    (∀ p v, s.get p = v ↔ (p, v) ∈ s.decls ∨ (p ∉ s.properties ∧ v = "")) ∧
    (∀ p v q, (s.set p v).get q = if q = p then trimBlank v else s.get q) ∧
    (∀ p v, (s.set p v).decls.filter (·.1 != p) = s.decls.filter (·.1 != p)) ∧
    (∀ p v, (s.set p v).properties =
      if trimBlank v = "" then s.properties.erase p
      else if p ∈ s.properties then s.properties else s.properties ++ [p]) ∧
    ∀ page : Page, page.AttrsDistinct → ∀ i < page.size, ∀ prop v,
      let e := (page.setStyle i prop v).get i
      e.style = (page.get i).style.set prop v ∧
      e.styleAttr = (if e.style.decls = [] then none else some e.style.render) ∧
      (page.setStyle i prop v).AttrsDistinct := by
  intro s
  have hs : s.WellFormed := (InlineStyle.wellFormed_ofAttr attr).foldl_set sets
  refine ⟨hs, hs.get_eq_iff, InlineStyle.get_set s, InlineStyle.filter_set s, fun p v => ?_, ?_⟩
  · rw [InlineStyle.properties_set, hs.nodup.erase_eq_filter]
  · intro page hpage i hi prop v
    have hget := Page.get_setStyle page i prop v i
    rw [if_pos ⟨rfl, hi⟩] at hget
    refine ⟨by rw [hget], ?_, hpage.setStyle i prop v⟩
    rw [Page.styleAttr_setStyle hi (hpage i) prop v, hget]

open Css (InlineStyle) in
/-- A `color` declaration read and `margin` set after it; and a padded `color` written to a page
of one `div` without attributes. -/
theorem inline_style_ordered_map_color_margin :
    let s := [("margin", "0")].foldl (fun s w => s.set w.1 w.2) (InlineStyle.ofAttr "color: red")
    let page : Page := ⟨[], #[⟨⟨"", "div"⟩, none, [], ⟨[]⟩⟩]⟩
    (s.WellFormed ∧ ∀ p v, s.get p = v ↔ (p, v) ∈ s.decls ∨ (p ∉ s.properties ∧ v = "")) ∧
    page.AttrsDistinct ∧ 0 < page.size ∧
      let e := (page.setStyle 0 "color" " red ").get 0
      e.style = (page.get 0).style.set "color" " red " ∧
      e.styleAttr = (if e.style.decls = [] then none else some e.style.render) ∧
      (page.setStyle 0 "color" " red ").AttrsDistinct :=
  have hpage : Page.AttrsDistinct ⟨[], #[⟨⟨"", "div"⟩, none, [], ⟨[]⟩⟩]⟩ := by
    intro i
    have ha : (Page.get ⟨[], #[⟨⟨"", "div"⟩, none, [], ⟨[]⟩⟩]⟩ i).attrs = [] := by
      unfold Page.get
      cases i <;> rfl
    rw [ha]
    exact List.nodup_nil
  have hmap := inline_style_ordered_map "color: red" [("margin", "0")]
  ⟨⟨hmap.1, hmap.2.1⟩, hpage, by decide, hmap.2.2.2.2.2 _ hpage 0 (by decide) "color" " red "⟩

end UtilityStyles
