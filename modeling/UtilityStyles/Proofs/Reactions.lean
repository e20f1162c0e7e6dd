import UtilityStyles.Proofs.StyleMap
/-!
# What a listener does to the page

Every listener a session attaches writes a list of properties to one element: a hover class's
`mouseover` listener writes the class's declarations, its `mouseout` listener writes the
baseline back, and a responsive class's `resize` listener writes the declarations inside its
breakpoint and clears the baseline's properties outside. The values depend on the registry, the
breakpoints and the window's width, never on the page, so running listeners is a run of writes
(`Page.setEach`).

The declarations of a class land on the distinct properties of its type, the list its baseline
is taken of. So while the type keeps its definition, a responsive listener writes the same
properties inside and outside its breakpoint, and a hover class's two listeners write the same
properties.

## Main statements

* `Page.writeAll_eq_setAll` : declarations as property writes (`Write.target`).
* `Context.mem_properties_iff` : declarations land exactly on the type's properties.
* `Session.react_eq`, `Session.reactAll_eq` : listeners as runs of writes.
* `Reaction.mem_assignments_keys` : an anchored listener writes its baseline's properties.
-/

namespace UtilityStyles

/-- The property a write lands on: a custom property write adds the leading `--` when it is
missing. -/
def Write.target (w : Write) : String :=
  if w.custom then (if w.property.startsWith "--" then w.property else "--" ++ w.property)
  else w.property

theorem Page.writeAll_eq_setAll (p : Page) (el : Nat) (ws : List Write) :
    p.writeAll el ws = p.setAll el (ws.map fun w => (w.target, w.value)) := by
  induction ws generalizing p with
  | nil => rfl
  | cons w rest ih =>
    simp only [Page.writeAll, List.map_cons, Page.setAll, ih]
    -- a custom write is a plain write to its `--` name
    unfold Write.target Page.setCustomProperty
    split <;> rfl

theorem customPropertyOf_startsWith {type : String} (h : isCustomType type = true) :
    (customPropertyOf type).startsWith "--" = true := by
  simp only [isCustomType, Bool.and_eq_true] at h
  obtain ⟨hstart, hend⟩ := h
  unfold String.endsWith at hend
  rw [String.Slice.endsWith_string_iff, String.copy_toSlice] at hend
  rw [String.startsWith_string_iff] at hstart ⊢
  obtain ⟨rest, hrest⟩ := hstart
  simp only [customPropertyOf, String.toList_ofList, ← hrest]
  -- `[--` itself does not end with `]`, so something follows the two dashes
  cases rest with
  | nil =>
    simp [← hrest] at hend
    exact absurd hend (by decide)
  | cons c rest => simp

theorem resolveTargets_map_target (value unit : String) (current : String → String)
    (done : List Write) (ts : List Target) :
    (resolveTargets value unit current done ts).map Write.target =
      done.map Write.target ++ ts.map (·.property) := by
  induction ts generalizing done with
  | nil => simp [resolveTargets]
  | cons t rest ih => simp [resolveTargets, ih, Write.target]

theorem mem_foldl_distinct (ts : List Target) (acc : List String) (q : String) :
    q ∈ ts.foldl (fun acc t => if acc.contains t.property then acc else acc ++ [t.property]) acc ↔
      q ∈ acc ∨ q ∈ ts.map (·.property) := by
  induction ts generalizing acc with
  | nil => simp
  | cons t rest ih =>
    rw [List.foldl_cons, ih]
    by_cases ht : acc.contains t.property
    · simp only [ht, if_true, List.map_cons, List.mem_cons]
      have : t.property ∈ acc := by simpa using ht
      constructor
      · rintro (h | h)
        · exact .inl h
        · exact .inr (.inr h)
      · rintro (h | rfl | h)
        · exact .inl h
        · exact .inl this
        · exact .inr h
    · have ht' : t.property ∉ acc := by simpa using ht
      simp [ht', or_assoc]

/-- The declarations of a type land exactly on the type's distinct properties, whatever the
value, unit and current values. -/
theorem Context.mem_properties_iff (c : Context) (type value unit : String)
    (current : String → String) (q : String) :
    q ∈ c.properties type ↔ q ∈ (c.registry.resolve type value unit current).map Write.target := by
  unfold Context.properties Registry.resolve
  split
  · rename_i h
    simp [Write.target, customPropertyOf_startsWith h]
  · cases hts : c.registry.targets? type with
    | none => simp
    | some ts =>
      simp only [Option.getD_some]
      rw [mem_foldl_distinct]
      simp [resolveTargets_map_target]

/-- The property writes of a class's declarations, computed against its baseline. -/
def Registry.declarations (reg : Registry) (tok : Token) (baseline : List (String × String)) :
    List (String × String) :=
  (reg.resolve tok.type tok.value tok.unit (baselineRead baseline)).map fun w => (w.target, w.value)

/-- The declarations of a class land exactly on the properties its type has in the context,
whatever the baseline. -/
theorem Registry.mem_declarations_keys (c : Context) (tok : Token) (base : List (String × String))
    (q : String) :
    q ∈ (c.registry.declarations tok base).map Prod.fst ↔ q ∈ c.properties tok.type := by
  rw [c.mem_properties_iff tok.type tok.value tok.unit (baselineRead base)]
  simp [Registry.declarations]

namespace Reaction

/-- The element a listener writes to. -/
def element : Reaction → Nat
  | .write el _ _ | .restore el _ | .evaluate el _ _ => el

/-- The values a listener's class found when it was bound. -/
def baseline : Reaction → List (String × String)
  | .write _ _ b | .restore _ b | .evaluate _ _ b => b

/-- What a listener writes to its element, given the registry, the breakpoints and the window's
width when it runs. -/
def assignments (reg : Registry) (bps : BreakpointTable) (width : Float) :
    Reaction → List (String × String)
  | .write _ tok base => reg.declarations tok base
  | .restore _ base => base
  | .evaluate _ tok base =>
    if (bps.find? tok.prefixName width).isSome then reg.declarations tok base
    else base.map fun (p, _) => (p, "")

/-- A listener whose class writes exactly the properties of its baseline, under the types of a
context. -/
def Anchored (c : Context) : Reaction → Prop
  | .write _ tok base | .evaluate _ tok base => base.map Prod.fst = c.properties tok.type
  | .restore _ _ => True

/-- An anchored listener writes the properties of its baseline, inside or outside its breakpoint
and whatever the width. -/
theorem mem_assignments_keys {c : Context} {r : Reaction} (hr : r.Anchored c)
    (bps : BreakpointTable) (width : Float) (q : String) :
    q ∈ (r.assignments c.registry bps width).map Prod.fst ↔ q ∈ r.baseline.map Prod.fst := by
  have hdecl : ∀ tok base, base.map Prod.fst = c.properties tok.type →
      (q ∈ (c.registry.declarations tok base).map Prod.fst ↔ q ∈ base.map Prod.fst) := by
    intro tok base hbase
    rw [hbase]
    exact Registry.mem_declarations_keys c tok base q
  cases r with
  | write el tok base => exact hdecl tok base hr
  | restore el base => rfl
  | evaluate el tok base =>
    simp only [assignments, baseline]
    split
    · exact hdecl tok base hr
    · simp

/-- Anchored listeners run together write the pairs of their elements and baselines. -/
theorem covers_assignments_iff {c : Context} {rs : List Reaction} (hrs : ∀ r ∈ rs, r.Anchored c)
    (bps : BreakpointTable) (width : Float) (el : Nat) (q : String) :
    Page.Covers (rs.map fun r => (r.element, r.assignments c.registry bps width)) el q ↔
      ∃ r ∈ rs, r.element = el ∧ q ∈ r.baseline.map Prod.fst := by
  constructor
  · rintro ⟨_, hx, hel, hq⟩
    obtain ⟨r, hr, rfl⟩ := List.mem_map.1 hx
    exact ⟨r, hr, hel, (mem_assignments_keys (hrs r hr) bps width q).1 hq⟩
  · rintro ⟨r, hr, hel, hq⟩
    exact ⟨_, List.mem_map.2 ⟨r, hr, rfl⟩, hel, (mem_assignments_keys (hrs r hr) bps width q).2 hq⟩

end Reaction

namespace Session

/-- A listener sets its assignments on its element and changes nothing else. -/
theorem react_eq (s : Session) (r : Reaction) :
    s.react r = { s with
      page := s.page.setAll r.element
        (r.assignments s.registry s.breakpoints ((s.window.map (·.width)).getD 0)) } := by
  cases r with
  | write el tok base => simp [react, Reaction.assignments, Registry.declarations,
      Page.writeAll_eq_setAll, Reaction.element]
  | restore el base => rfl
  | evaluate el tok base =>
    simp only [react, Reaction.assignments, Reaction.element]
    split <;> simp [Registry.declarations, Page.writeAll_eq_setAll]

/-- Listeners run in order are one run of writes, each listener's computed from the state they
all share. -/
theorem reactAll_eq (s : Session) (rs : List Reaction) :
    s.reactAll rs = { s with
      page := s.page.setEach (rs.map fun r => (r.element,
        r.assignments s.registry s.breakpoints ((s.window.map (·.width)).getD 0))) } := by
  induction rs generalizing s with
  | nil => rfl
  | cons r rest ih => simp [reactAll, ih, react_eq, Page.setEach]

end Session

end UtilityStyles
