import UtilityStyles.Resolver.Mode
import UtilityStyles.Page.Basic
import UtilityStyles.Page.Listeners
import UtilityStyles.Class.Parse
import UtilityStyles.Config.Value
import UtilityStyles.Color
import UtilityStyles.Log
/-!
# Applying classes to a live page

A session applies utility classes to the elements of a page and keeps them applied while the
page changes: a class without prefix writes its declarations at once; a responsive class writes
them while the window's width lies in its breakpoint and clears its properties otherwise,
re-evaluated on every resize; a hover class writes them on `mouseover` and restores the
properties' earlier values on `mouseout`.

Listeners are data (`Reaction`): what to write, and the values of the properties when the class
was applied (its baseline), which is what declarations that add to a property build on. When a
listener runs, it reads the registry and the breakpoints as they are then.

Each application returns a binding, which counts the classes by mode and holds the listeners it
added; closing it removes them. The session keeps the bindings that hold listeners, and closing
the session closes those.

The session logs, under the name `resolver`, each class it cannot read or leaves inert, each
type it cannot write, and each property definition it refuses.

## Main definitions

* `Session`, `Session.start`.
* `Session.applyClass`, `Session.applyMulti`, `Session.applyElement`, `Session.applyStyle`.
* `Session.dispatch`, `Session.resize`, `Session.closeBinding`, `Session.close`, `Session.use`.
-/

namespace UtilityStyles

open UtilityStyles.Class (parseClass)
open UtilityStyles.Text (fields)

/-- What a listener does when its event fires. -/
inductive Reaction where
  /-- Writes a class's declarations to an element, building on the baseline. -/
  | write (el : Nat) (token : Token) (baseline : List (String × String))
  /-- Restores an element's properties to the baseline. -/
  | restore (el : Nat) (baseline : List (String × String))
  /-- Writes a responsive class's declarations when the window is in its breakpoint, and clears
  its properties otherwise. -/
  | evaluate (el : Nat) (token : Token) (baseline : List (String × String))
  deriving Repr, Inhabited

/-- Where a listener is attached. -/
inductive Source where
  | element (el : Nat)
  | window
  deriving Repr, BEq, DecidableEq

/-- A listener a binding added: where, for which event, and its number there. -/
structure Attachment where
  source : Source
  event : String
  id : Nat
  deriving Repr, BEq

/-- The classes of a binding counted by mode. -/
structure ModeCounts where
  inert : Nat
  immediate : Nat
  responsive : Nat
  hover : Nat
  deriving Repr, BEq, Inhabited

/-- The count of a mode. -/
def ModeCounts.get (c : ModeCounts) : Mode → Nat
  | .inert => c.inert
  | .immediate => c.immediate
  | .responsive => c.responsive
  | .hover => c.hover

/-- Counts one more class of a mode. -/
def ModeCounts.record (c : ModeCounts) : Mode → ModeCounts
  | .inert => { c with inert := c.inert + 1 }
  | .immediate => { c with immediate := c.immediate + 1 }
  | .responsive => { c with responsive := c.responsive + 1 }
  | .hover => { c with hover := c.hover + 1 }

/-- The classes that apply in some way: immediate, responsive and hover. -/
def ModeCounts.applied (c : ModeCounts) : Nat :=
  c.immediate + c.responsive + c.hover

/-- The result of applying classes: the counts by mode, the listeners still attached, and
whether it was closed. -/
structure Binding where
  counts : ModeCounts
  attachments : List Attachment
  closed : Bool
  deriving Repr, Inhabited

/-- The number of listeners a binding holds. -/
def Binding.listeners (b : Binding) : Nat := b.attachments.length

/-- The window: its width and its listeners. -/
structure Window where
  width : Float
  listeners : Listeners Reaction
  deriving Inhabited

/-- A page with classes applied to it. -/
structure Session where
  registry : Registry
  breakpoints : BreakpointTable
  window : Option Window
  page : Page
  handlers : Array (Listeners Reaction)
  bindings : Array Binding
  live : List Nat
  log : Array LogEntry
  deriving Inhabited

/-- Writes declarations to an element; custom property writes go through the custom property
setter. -/
def Page.writeAll (p : Page) (el : Nat) : List Write → Page
  | [] => p
  | w :: rest =>
    let p' := if w.custom then p.setCustomProperty el w.property w.value
      else p.setStyle el w.property w.value
    p'.writeAll el rest

/-- Sets properties of an element to values. -/
def Page.setAll (p : Page) (el : Nat) : List (String × String) → Page
  | [] => p
  | (prop, v) :: rest => (p.setStyle el prop v).setAll el rest

/-- Writes the colours of an element's class attribute; says whether any was written. -/
def Page.moreColor (p : Page) (el : Nat) : Page × Bool :=
  let ws := colorWrites (p.classAttr el)
  (p.setAll el ws, !ws.isEmpty)

/-- The value of a property in a baseline, empty when it has none. -/
def baselineRead (baseline : List (String × String)) (property : String) : String :=
  ((baseline.find? (·.1 == property)).map (·.2)).getD ""

namespace Session

/-- A session on a page, with or without a window of the given width. -/
def start (registry : Registry) (breakpoints : BreakpointTable) (width : Option Float)
    (page : Page) : Session :=
  { registry, breakpoints, page,
    window := width.map fun w => ⟨w, Listeners.empty⟩,
    handlers := Array.replicate page.size Listeners.empty,
    bindings := #[], live := [], log := #[] }

/-- Logs an entry under the session's name. -/
def note (s : Session) (level : LogLevel) (message : String) (fields : List (String × LogValue)) :
    Session :=
  { s with log := s.log.push ⟨level, ["resolver"], message, fields⟩ }

/-- The registry, the breakpoints and the window's width. -/
def context (s : Session) : Context :=
  ⟨s.registry, s.breakpoints, s.window.map (·.width)⟩

/-- The mode of a class. -/
def modeOf (s : Session) (tok : Token) : Mode := s.context.modeOf tok

/-- Runs one listener. -/
def react (s : Session) : Reaction → Session
  | .write el tok baseline =>
    let ws := s.registry.resolve tok.type tok.value tok.unit (baselineRead baseline)
    { s with page := s.page.writeAll el ws }
  | .restore el baseline => { s with page := s.page.setAll el baseline }
  | .evaluate el tok baseline =>
    let width := (s.window.map (·.width)).getD 0
    if (s.breakpoints.find? tok.prefixName width).isSome then
      let ws := s.registry.resolve tok.type tok.value tok.unit (baselineRead baseline)
      { s with page := s.page.writeAll el ws }
    else { s with page := s.page.setAll el (baseline.map fun (p, _) => (p, "")) }

/-- Runs listeners in order. -/
def reactAll (s : Session) : List Reaction → Session
  | [] => s
  | r :: rest => (s.react r).reactAll rest

/-- The listeners of an element. -/
def handlersOf (s : Session) (el : Nat) : Listeners Reaction :=
  s.handlers.getD el Listeners.empty

/-- Fires an event on an element: runs its listeners as they stand, and counts them. -/
def dispatch (s : Session) (el : Nat) (event : String) : Session × Nat :=
  let rs := (s.handlersOf el).forEvent event
  (s.reactAll rs, rs.length)

/-- Resizes the window and runs its `resize` listeners; counts them. Without a window nothing
happens. -/
def resize (s : Session) (width : Float) : Session × Nat :=
  match s.window with
  | none => (s, 0)
  | some w =>
    let s' := { s with window := some { w with width := width } }
    let rs := w.listeners.forEvent "resize"
    (s'.reactAll rs, rs.length)

/-- Removes a listener from where it is attached. -/
def detach (s : Session) (a : Attachment) : Session :=
  match a.source with
  | .window => { s with window := s.window.map fun w =>
      { w with listeners := w.listeners.remove a.event a.id } }
  | .element el =>
    { s with handlers := s.handlers.modify el fun t => t.remove a.event a.id }

/-- Removes listeners in order. -/
def detachAll (s : Session) : List Attachment → Session
  | [] => s
  | a :: rest => (s.detach a).detachAll rest

/-- A new binding; returns its number. -/
def newBinding (s : Session) : Session × Nat :=
  ({ s with bindings := s.bindings.push ⟨⟨0, 0, 0, 0⟩, [], false⟩ }, s.bindings.size)

/-- The binding with a number. -/
def binding (s : Session) (b : Nat) : Binding := s.bindings.getD b default

/-- Attaches a listener for a binding. A closed binding removes it at once; the first listener
of a binding makes the session keep the binding. -/
def listen (s : Session) (b : Nat) (source : Source) (event : String) (r : Reaction) : Session :=
  let (s1, id) : Session × Nat :=
    match source with
    | .window =>
      match s.window with
      | some w =>
        let (t, id) := w.listeners.add event r
        ({ s with window := some { w with listeners := t } }, id)
      | none => (s, 0)
    | .element el =>
      let (t, id) := (s.handlersOf el).add event r
      ({ s with handlers := s.handlers.setIfInBounds el t }, id)
  let a : Attachment := ⟨source, event, id⟩
  let bd := s1.binding b
  if bd.closed then s1.detach a
  else
    let live := if bd.attachments.isEmpty then s1.live ++ [b] else s1.live
    { s1 with live := live,
              bindings := s1.bindings.setIfInBounds b { bd with attachments := bd.attachments ++ [a] } }

/-- Writes the declarations of a type, value and unit to an element, building on its current
style; says whether the type is known. -/
def applyStyle (s : Session) (el : Nat) (type value unit : String) : Session × Bool :=
  let ws := s.registry.resolve type value unit (s.page.styleValue el)
  if ws.isEmpty then (s.note .debug "unknown type" [("type", .text type)], false) else ({ s with page := s.page.writeAll el ws }, true)

/-- The current values of properties of an element. -/
def snapshot (s : Session) (el : Nat) (props : List String) : List (String × String) :=
  props.map fun p => (p, s.page.styleValue el p)

/-- Binds a responsive class: evaluates it now, and again on every resize. -/
def bindResponsive (s : Session) (el : Nat) (tok : Token) (b : Nat) : Session :=
  let baseline := s.snapshot el (s.context.properties tok.type)
  let r := Reaction.evaluate el tok baseline
  (s.react r).listen b .window "resize" r

/-- Binds a hover class: writes it on `mouseover`, restores the baseline on `mouseout`. -/
def bindHover (s : Session) (el : Nat) (tok : Token) (b : Nat) : Session :=
  let baseline := s.snapshot el (s.context.properties tok.type)
  (s.listen b (.element el) "mouseover" (.write el tok baseline)).listen b (.element el)
    "mouseout" (.restore el baseline)

/-- Applies one class to an element under a binding, and counts it by its mode. -/
def applyClass (s : Session) (el : Nat) (b : Nat) (className : String) : Session :=
  let (s', mode) : Session × Mode :=
    match parseClass className with
    | none => (s.note .debug "class does not match" [("class", .text className)], .inert)
    | some tok =>
      match s.modeOf tok with
      | .immediate => ((s.applyStyle el tok.type tok.value tok.unit).1, .immediate)
      | .responsive => (s.bindResponsive el tok b, .responsive)
      | .hover => (s.bindHover el tok b, .hover)
      | .inert =>
        (s.note .debug "inert class" [("class", .text className), ("prefix", .text tok.prefixName)],
          .inert)
  let bd := s'.binding b
  { s' with bindings := s'.bindings.setIfInBounds b { bd with counts := bd.counts.record mode } }

/-- Applies classes to an element under one new binding; returns the binding's number. -/
def applyClasses (s : Session) (el : Nat) (classes : List String) : Session × Nat :=
  let (s1, b) := s.newBinding
  (classes.foldl (fun acc c => acc.applyClass el b c) s1, b)

/-- Applies one class to an element. -/
def apply (s : Session) (el : Nat) (className : String) : Session × Nat :=
  s.applyClasses el [className]

/-- Applies the blank-separated classes of a text to an element. -/
def applyMulti (s : Session) (el : Nat) (classes : String) : Session × Nat :=
  s.applyClasses el (fields classes)

/-- Applies an element's own classes to it. -/
def applyElement (s : Session) (el : Nat) : Session × Nat :=
  s.applyClasses el (s.page.classNames el)

/-- Closes a binding: removes its listeners. Closing twice changes nothing. -/
def closeBinding (s : Session) (b : Nat) : Session :=
  let bd := s.binding b
  if bd.closed then s
  else
    let s' := s.detachAll bd.attachments
    { s' with bindings := s'.bindings.setIfInBounds b { bd with closed := true, attachments := [] } }

/-- Closes every binding the session keeps, and forgets them. -/
def close (s : Session) : Session :=
  { s.live.foldl (fun acc b => acc.closeBinding b) s with live := [] }

/-- Adds breakpoints and defines types, skipping definitions that are refused. -/
def use (s : Session) (breakpoints : List Breakpoint)
    (props : List (List (String × Config.Value))) : Session :=
  props.foldl (fun acc p =>
    let (r, errs) := acc.registry.defineAll p
    errs.foldl (fun a e => a.note .warn "skipping property definition" [("error", .text e.message)])
      { acc with registry := r })
    { s with breakpoints := s.breakpoints.append breakpoints }

end Session

end UtilityStyles
