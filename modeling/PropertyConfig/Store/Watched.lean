import PropertyConfig.Store.Edit

/-!
# Watched stores

A store together with those who observe it. Observers are numbered from zero in the order in which
they come, and numbers are not used again. Every change is reported to all of them, one change after
the other.
-/

namespace PropertyConfig

/-- A store and its observers, each with its number; `next` is the number of the next one. -/
structure Watched (α : Type) where
  store : Store
  observers : List (Nat × α) := []
  next : Nat := 0

namespace Watched

variable {α : Type}

/-- Adds an observer and gives it its number (`add_observer`). -/
def observe (w : Watched α) (observer : α) : Watched α × Nat :=
  ({ w with observers := w.observers ++ [(w.next, observer)], next := w.next + 1 }, w.next)

/-- Removes the observer with a number, and tells whether there was one (`remove_observer`). -/
def unobserve (w : Watched α) (id : Nat) : Watched α × Bool :=
  let rest := w.observers.filter (·.1 != id)
  ({ w with observers := rest }, rest.length != w.observers.length)

def run (w : Watched α) (edits : List Edit) : Watched α := { w with store := w.store.run edits }

/-- What observers learn of some edits: every change is told to each of them in turn
(`notify`). -/
def reports (w : Watched α) (edits : List Edit) : List (α × Change) :=
  (w.store.changes edits).flatMap fun c => w.observers.map fun o => (o.2, c)

end Watched

end PropertyConfig
