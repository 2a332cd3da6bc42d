/-!
# Subscribers

Listeners are known by tickets, which are never handed out twice. A listener may unsubscribe itself
or others while it is called; a notification still reaches everyone who was subscribed when it
began.

- `Subscribers.notify` gives the tickets in the order in which their listeners are called, and who
  is still subscribed afterwards.
-/

namespace DynamicForm

/-- A listener: its ticket, and the tickets that it unsubscribes when it is called. -/
structure Subscriber where
  ticket : Nat
  drops : List Nat := []
deriving DecidableEq, Repr

/-- The listeners in the order of their subscription. -/
structure Subscribers where
  active : List Subscriber := []
  /-- The next ticket. -/
  next : Nat := 0
deriving Repr

namespace Subscribers

/-- Adds a listener. What it unsubscribes when called may depend on its ticket. -/
def subscribe (s : Subscribers) (drops : Nat → List Nat) : Nat × Subscribers :=
  (s.next, { active := s.active ++ [⟨s.next, drops s.next⟩], next := s.next + 1 })

/-- Removes the listener with the ticket; without one nothing happens. -/
def unsubscribe (s : Subscribers) (ticket : Nat) : Subscribers :=
  { s with active := s.active.filter fun l => l.ticket ≠ ticket }

/-- Calls the listeners of a list in order. -/
def callAll (s : Subscribers) : List Subscriber → List Nat × Subscribers
  | [] => ([], s)
  | l :: rest =>
    let (calls, after) := callAll (l.drops.foldl unsubscribe s) rest
    (l.ticket :: calls, after)

/-- Calls everyone who is subscribed. -/
def notify (s : Subscribers) : List Nat × Subscribers := s.callAll s.active

end Subscribers

end DynamicForm
