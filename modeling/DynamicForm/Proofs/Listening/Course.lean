import DynamicForm.Subscribers

/-!
# Courses of calls

What is done with something that has listeners is a course of calls. Listeners come and go between
the calls, and a listener that is called may do the same: subscribe or unsubscribe anyone, itself
included, and make calls of its own, of which listeners are told in turn. It may also survive that one
of its calls is cut short by a fault, and those who are called after it find what that call has left.

When listeners have to be told of a call is said apart from what the call does: a subject *owes* them
a notification, and it is a matter of proof that it calls them then and at no other time.

- `Subject` is something with listeners, through the operations that it offers.
- `Course` is what is done, by whoever is outside and by the listeners.
- `Course.perform` carries a course out and keeps an `Account` of it.
- `Account.Orderly` says what has to hold of every notification and of everyone who unsubscribes.
- `Account.Finds` says what listeners find, as long as nobody has meddled.
-/

namespace DynamicForm.Listening

/-- Something with listeners: what it does when called, who is called then and told what, and what
listeners have to be told. -/
structure Subject (σ α ν : Type) where
  listeners : σ → Subscribers
  withListeners : σ → Subscribers → σ
  subscribe : σ → Nat × σ
  unsubscribe : σ → Nat → σ
  /-- A call, with the tickets of the listeners that it calls. -/
  act : σ → α → σ × List (Nat × ν)
  /-- What listeners have to be told of a call, if they have to be told anything. -/
  owed? : σ → α → Option ν
  /-- Whether a call is cut short by a fault. -/
  isCut : σ → α → Bool

namespace Subject

variable {σ α ν : Type} (p : Subject σ α ν)

/-- The state that a call leads to, with the listeners that there were before anyone was called. -/
def reached (s : σ) (a : α) : σ := p.withListeners (p.act s a).1 (p.listeners s)

/-- Who is subscribed, in the order of their subscription. -/
def tickets (s : σ) : List Nat := (p.listeners s).active.map Subscriber.ticket

/-- A state in which these listeners have been told something, or nothing. -/
def notified (s : σ) (told? : Option ν) (l : Subscribers) : σ × List (Nat × ν) :=
  match told? with
  | none => (p.withListeners s l, [])
  | some n => (p.withListeners s l.notify.2, l.notify.1.map fun t => (t, n))

/-- Who listens is kept apart from everything else, and a call notifies all listeners of what is owed
to them, or nobody when nothing is. -/
structure Lawful : Prop where
  listeners_with : ∀ s l, p.listeners (p.withListeners s l) = l
  with_listeners : ∀ s, p.withListeners s (p.listeners s) = s
  with_with : ∀ s l l', p.withListeners (p.withListeners s l) l' = p.withListeners s l'
  subscribe_eq : ∀ s, p.subscribe s =
    (((p.listeners s).subscribe fun _ => []).1,
      p.withListeners s ((p.listeners s).subscribe fun _ => []).2)
  unsubscribe_eq : ∀ s t, p.unsubscribe s t = p.withListeners s ((p.listeners s).unsubscribe t)
  act_eq : ∀ s a, p.act s a = p.notified (p.reached s a) (p.owed? s a) (p.listeners s)

end Subject

/-- What is done, one thing after the other. -/
inductive Course (α : Type) where
  | done
  | subscribe (rest : Course α)
  /-- Whoever has the ticket may be unsubscribed by anyone, and more than once. -/
  | unsubscribe (ticket : Nat) (rest : Course α)
  /-- A call, and for every ticket what its listener does if it is called then. -/
  | call (a : α) (reaction : Nat → Course α) (rest : Course α)

/-- A listener comes or goes. -/
inductive Turn where
  | joined (ticket : Nat)
  | left (ticket : Nat)
deriving DecidableEq, Repr

namespace Turn

/-- Who joins, if anyone does. -/
def joined? : Turn → Option Nat
  | joined t => some t
  | left _ => none

/-- Who has joined and not left, in the order of joining. -/
def remaining (turns : List Turn) : List Nat :=
  (turns.filterMap joined?).filter fun t => left t ∉ turns

end Turn

/-- Someone is called: the state that is found, and whether a call has been cut short since the last
one that listeners had to be told of. -/
structure Hearing (σ : Type) where
  ticket : Nat
  state : σ
  cut : Bool

/-- A notification: who came and went before it began, and who is called. -/
structure Round (σ ν : Type) where
  told : ν
  turns : List Turn
  calls : List (Hearing σ)

/-- Someone is unsubscribed: who came and went before, and the state before and after. -/
structure Departure (σ : Type) where
  ticket : Nat
  turns : List Turn
  before : σ
  after : σ

/-- What a course has led to, and what has happened on the way. -/
structure Account (σ ν : Type) where
  state : σ
  turns : List Turn := []
  rounds : List (Round σ ν) := []
  departures : List (Departure σ) := []
  /-- Whether a call has been cut short since the last one that listeners had to be told of. -/
  cut : Bool := false

variable {σ α ν : Type}

namespace Account

variable (p : Subject σ α ν)

/-- Someone is subscribed under a new ticket. -/
def subscribe (r : Account σ ν) : Account σ ν :=
  { r with
    state := (p.subscribe r.state).2
    turns := r.turns ++ [.joined (p.subscribe r.state).1] }

/-- Nobody is unsubscribed by a ticket that has not been handed out yet. -/
def unsubscribe (ticket : Nat) (r : Account σ ν) : Account σ ν :=
  if ticket < (p.listeners r.state).next then
    { r with
      state := p.unsubscribe r.state ticket
      turns := r.turns ++ [.left ticket]
      departures := r.departures ++ [⟨ticket, r.turns, r.state, p.unsubscribe r.state ticket⟩] }
  else r

/-- The state is changed, and nobody has been called yet. A call that listeners have to be told of has
not been cut short, and makes good for those before it that have been. -/
def reach (a : α) (r : Account σ ν) : Account σ ν :=
  { r with
    state := p.reached r.state a
    cut := (p.owed? r.state a).isNone && (r.cut || p.isCut r.state a) }

/-- The listener with a ticket is called. -/
def hearing (ticket : Nat) (r : Account σ ν) : Hearing σ := ⟨ticket, r.state, r.cut⟩

end Account

/-- Calls the listeners of some tickets in order. Each one finds what those before it have left. -/
def callEach (react : Nat → Account σ ν → Account σ ν) :
    List Nat → Account σ ν → List (Hearing σ) × Account σ ν
  | [], r => ([], r)
  | t :: rest, r =>
    let (calls, after) := callEach react rest (react t r)
    (r.hearing t :: calls, after)

/-- Carries out a course. A notification calls those who are subscribed when it begins. -/
def Course.perform (p : Subject σ α ν) : Course α → Account σ ν → Account σ ν
  | .done, r => r
  | .subscribe rest, r => rest.perform p (r.subscribe p)
  | .unsubscribe t rest, r => rest.perform p (r.unsubscribe p t)
  | .call a reaction rest, r =>
    match p.owed? r.state a with
    | none => rest.perform p (r.reach p a)
    | some n =>
      let (calls, after) := callEach (fun t => (reaction t).perform p)
        (p.tickets r.state) (r.reach p a)
      rest.perform p { after with rounds := after.rounds ++ [⟨n, r.turns, calls⟩] }

/-! ## What has to hold

Of a notification it is asked who is called, and what is found by whoever is called; of someone who is
unsubscribed, what else changes. -/

/-- Exactly those who are subscribed when it begins are called, in the order of their subscription
and once each. -/
structure Round.Complete (n : Round σ ν) : Prop where
  called : n.calls.map Hearing.ticket = Turn.remaining n.turns
  once : (n.calls.map Hearing.ticket).Nodup

/-- Someone who is unsubscribed for the first time is taken out and nothing else changes; after that
nothing changes at all. -/
structure Departure.Sole (p : Subject σ α ν) (d : Departure σ) : Prop where
  first : .left d.ticket ∉ d.turns → ∃ xs l ys, l.ticket = d.ticket ∧
    (p.listeners d.before).active = xs ++ l :: ys ∧
      d.after = p.withListeners d.before { p.listeners d.before with active := xs ++ ys }
  again : .left d.ticket ∈ d.turns → d.after = d.before

/-- Every notification is complete, and nobody leaves but who is unsubscribed. -/
structure Account.Orderly (p : Subject σ α ν) (r : Account σ ν) : Prop where
  complete : ∀ n ∈ r.rounds, n.Complete
  sole : ∀ d ∈ r.departures, d.Sole p

/-- Whoever is called finds a state of a kind, unless a call has been cut short by then, which none
has when the first one is called. -/
structure Round.Finds (A : σ → Prop) (n : Round σ ν) : Prop where
  first : ∀ c ∈ n.calls.head?, c.cut = false
  found : ∀ c ∈ n.calls, c.cut = false → A c.state

/-- In every notification a state of this kind is found. -/
def Account.Finds (A : σ → Prop) (r : Account σ ν) : Prop := ∀ n ∈ r.rounds, n.Finds A

end DynamicForm.Listening
