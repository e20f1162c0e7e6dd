/-!
# Event listeners

A table of listeners by event name. Each listener gets the next number of its table when it is
added, and is removed by that number. Dispatching an event runs its listeners in the order they
were added, as they stood when the event fired, and reports how many ran.

The table holds listeners as data (`α`): what a listener does is decided by whoever dispatches.

## Main definitions

* `Listeners`, `Listeners.add`, `Listeners.remove`, `Listeners.forEvent`, `Listeners.count`.
-/

namespace UtilityStyles

/-- Listeners by event name, with the number the next listener gets. -/
structure Listeners (α : Type) where
  next : Nat
  byEvent : List (String × List (Nat × α))
  deriving Repr

namespace Listeners

variable {α : Type}

/-- The table without listeners. -/
def empty : Listeners α := ⟨0, []⟩

instance : Inhabited (Listeners α) := ⟨empty⟩

/-- The listeners of an event, with their numbers, in the order they were added. -/
def entries (t : Listeners α) (event : String) : List (Nat × α) :=
  ((t.byEvent.find? (·.1 == event)).map (·.2)).getD []

/-- The listeners of an event, in the order they were added. -/
def forEvent (t : Listeners α) (event : String) : List α :=
  (t.entries event).map (·.2)

/-- How many listeners an event has. -/
def count (t : Listeners α) (event : String) : Nat :=
  (t.entries event).length

/-- Replaces the listeners of an event. -/
def putEntries (t : Listeners α) (event : String) (es : List (Nat × α)) : Listeners α :=
  if t.byEvent.any (·.1 == event) then
    { t with byEvent := t.byEvent.map fun p => if p.1 == event then (event, es) else p }
  else { t with byEvent := t.byEvent ++ [(event, es)] }

/-- Adds a listener for an event; returns the table and the listener's number. -/
def add (t : Listeners α) (event : String) (a : α) : Listeners α × Nat :=
  let id := t.next + 1
  ({ t.putEntries event (t.entries event ++ [(id, a)]) with next := id }, id)

/-- Removes the listener of an event with the given number, if it is there. -/
def remove (t : Listeners α) (event : String) (id : Nat) : Listeners α :=
  t.putEntries event ((t.entries event).filter (·.1 != id))

end Listeners

end UtilityStyles
