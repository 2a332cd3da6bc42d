import DynamicForm.Proofs.Listening.Course
import DynamicForm.Proofs.Subscribers

/-!
# Order among listeners

Tickets are handed out in order, so those who are subscribed are known from who has come and gone.
What a listener does cannot disturb this, since it can do nothing but what could be done from
outside. So one invariant is enough for the whole of a course, whoever makes the calls: the list of
listeners is what the comings and goings so far say that it is.

What listeners find is another invariant. A call that they have to be told of establishes something
of the state, such as that what is shown agrees with the values, and it lasts until a call is cut
short.

- `Account.Tracks`: the listeners are those who have joined and not left.
- `Course.perform_kept`: in every course, notifications are complete, and nobody leaves but who is
  unsubscribed.
- `Course.perform_stands`: what calls establish before listeners are called is what listeners find.
-/

namespace DynamicForm.Listening

variable {σ α ν : Type} {p : Subject σ α ν} {r after : Account σ ν}

/-! ## Coming and going

Who remains is read off the comings and goings: someone who joins comes last, and someone who leaves
is struck out wherever they stand. -/

namespace Turn

variable {turns : List Turn} {t : Nat}

@[simp] theorem joined?_joined (t : Nat) : joined? (.joined t) = some t := rfl

@[simp] theorem joined?_left (t : Nat) : joined? (.left t) = none := rfl

/-- Someone with a new ticket comes last. -/
theorem remaining_joined (hnew : left t ∉ turns) :
    remaining (turns ++ [.joined t]) = remaining turns ++ [t] := by
  simp [remaining, List.filterMap_append, hnew]

/-- Someone who leaves is struck out. -/
theorem remaining_left (turns : List Turn) (t : Nat) :
    remaining (turns ++ [.left t]) = (remaining turns).filter (· ≠ t) := by
  rw [remaining, List.filterMap_append, List.filterMap_cons_none (joined?_left t),
    List.filterMap_nil, List.append_nil, remaining, List.filter_filter]
  refine List.filter_congr fun u _ => ?_
  by_cases hu : u = t <;> simp [hu]

/-- Those remain who have joined and not left. -/
theorem mem_remaining : t ∈ remaining turns ↔ joined t ∈ turns ∧ left t ∉ turns := by
  have hjoined : ∀ turn, joined? turn = some t ↔ turn = joined t := by
    intro turn
    cases turn <;> simp [joined?]
  simp [remaining, hjoined]

end Turn

/-! ## What a call leaves alone -/

namespace Subject.Lawful

variable {s : σ} (h : p.Lawful)
include h

/-- A call leaves the listeners alone until it calls them. -/
theorem listeners_reached (a : α) : p.listeners (p.reached s a) = p.listeners s :=
  h.listeners_with _ _

theorem subscribe_fst : (p.subscribe s).1 = (p.listeners s).next := by
  rw [h.subscribe_eq]
  rfl

/-- A new listener comes last, and takes out nobody by itself. -/
theorem listeners_subscribe : p.listeners (p.subscribe s).2 =
    { active := (p.listeners s).active ++ [{ ticket := (p.listeners s).next }]
      next := (p.listeners s).next + 1 } := by
  rw [h.subscribe_eq, h.listeners_with]
  rfl

theorem tickets_subscribe :
    p.tickets (p.subscribe s).2 = p.tickets s ++ [(p.listeners s).next] := by
  rw [tickets, h.listeners_subscribe, List.map_append]
  rfl

theorem listeners_unsubscribe (t : Nat) :
    p.listeners (p.unsubscribe s t) = (p.listeners s).unsubscribe t := by
  rw [h.unsubscribe_eq, h.listeners_with]

theorem tickets_unsubscribe (t : Nat) :
    p.tickets (p.unsubscribe s t) = (p.tickets s).filter (· ≠ t) := by
  rw [tickets, h.listeners_unsubscribe, Subscribers.unsubscribe, tickets, List.filter_map]
  rfl

end Subject.Lawful

/-! ## Who is subscribed -/

/-- The listeners are those who have joined and not left. -/
structure Account.Tracks (p : Subject σ α ν) (r : Account σ ν) : Prop where
  joined : r.turns.filterMap Turn.joined? = List.range (p.listeners r.state).next
  left_lt : ∀ t, .left t ∈ r.turns → t < (p.listeners r.state).next
  tickets : p.tickets r.state = Turn.remaining r.turns

namespace Account.Tracks

/-- Nobody is subscribed twice, since tickets are handed out once. -/
theorem nodup (h : r.Tracks p) : (p.tickets r.state).Nodup := by
  rw [h.tickets, Turn.remaining, h.joined]
  exact List.nodup_range.filter _

/-- Only who listens matters, and who has come and gone. -/
theorem of_eq (h : r.Tracks p) (hturns : after.turns = r.turns)
    (hlisteners : p.listeners after.state = p.listeners r.state) : after.Tracks p where
  joined := by rw [hturns, hlisteners, h.joined]
  left_lt := by
    rw [hturns, hlisteners]
    exact h.left_lt
  tickets := by rw [hturns, Subject.tickets, hlisteners, ← h.tickets, Subject.tickets]

/-- Someone who joins gets the next ticket, which nobody can have left with. -/
theorem subscribe (hp : p.Lawful) (h : r.Tracks p) : (r.subscribe p).Tracks p where
  joined := by
    simp only [Account.subscribe, List.filterMap_append, h.joined, hp.listeners_subscribe,
      hp.subscribe_fst, List.range_succ]
    rfl
  left_lt t ht := by
    simp only [Account.subscribe, hp.listeners_subscribe] at ht ⊢
    have := h.left_lt t (by simpa using ht)
    omega
  tickets := by
    have hnew : .left (p.listeners r.state).next ∉ r.turns := fun hleft =>
      Nat.lt_irrefl _ (h.left_lt _ hleft)
    rw [Account.subscribe, hp.tickets_subscribe, hp.subscribe_fst, Turn.remaining_joined hnew,
      h.tickets]

/-- Someone who leaves is missing among the listeners and among those who remain. -/
theorem unsubscribe (hp : p.Lawful) (h : r.Tracks p) (ticket : Nat) :
    (r.unsubscribe p ticket).Tracks p := by
  unfold Account.unsubscribe
  split
  · next hlt =>
    refine ⟨?_, fun t ht => ?_, ?_⟩
    · simp only [List.filterMap_append, h.joined, hp.listeners_unsubscribe]
      simp [Subscribers.unsubscribe]
    · rw [hp.listeners_unsubscribe]
      rcases List.mem_append.mp ht with ht | ht
      · exact h.left_lt t ht
      · cases List.mem_singleton.mp ht
        exact hlt
    · rw [hp.tickets_unsubscribe, Turn.remaining_left, h.tickets]
  · exact h

end Account.Tracks

/-! ## Everyone is called, and nobody else leaves -/

/-- Someone is unsubscribed. The first time the ticket stands for one listener, and after that for
none. -/
theorem sole_unsubscribe (hp : p.Lawful) (h : r.Tracks p) {ticket : Nat}
    (hlt : ticket < (p.listeners r.state).next) :
    Departure.Sole p ⟨ticket, r.turns, r.state, p.unsubscribe r.state ticket⟩ where
  first hstays := by
    have hmem : ticket ∈ p.tickets r.state := by
      rw [h.tickets, Turn.remaining, h.joined]
      simp [hlt, hstays]
    obtain ⟨xs, l, ys, hl, hsplit, hout⟩ := Subscribers.unsubscribe_of_mem h.nodup hmem
    exact ⟨xs, l, ys, hl, hsplit, by rw [hp.unsubscribe_eq, hout]⟩
  again hleft := by
    have hgone : ticket ∉ p.tickets r.state := by
      rw [h.tickets, Turn.mem_remaining]
      exact fun hmem => hmem.2 hleft
    rw [hp.unsubscribe_eq, Subscribers.unsubscribe_of_not_mem hgone, hp.with_listeners]

/-- Only notifications and departures matter. -/
theorem Account.Orderly.of_eq (h : r.Orderly p) (hrounds : after.rounds = r.rounds)
    (hdepartures : after.departures = r.departures) : after.Orderly p where
  complete := hrounds ▸ h.complete
  sole := hdepartures ▸ h.sole

/-- What holds of an account at any time. -/
structure Account.Kept (p : Subject σ α ν) (r : Account σ ν) : Prop where
  tracks : r.Tracks p
  orderly : r.Orderly p

/-- Everyone in the row is called, whatever those before have done. -/
theorem callEach_fst (react : Nat → Account σ ν → Account σ ν) (tickets : List Nat)
    (r : Account σ ν) : (callEach react tickets r).1.map Hearing.ticket = tickets := by
  induction tickets generalizing r with
  | nil => rfl
  | cons t rest ih => exact congrArg (t :: ·) (ih _)

/-- What every reaction keeps, a row of calls keeps. -/
theorem callEach_keeps {I : Account σ ν → Prop} {react : Nat → Account σ ν → Account σ ν}
    (hreact : ∀ t r, I r → I (react t r)) (tickets : List Nat) (h : I r) :
    I (callEach react tickets r).2 := by
  induction tickets generalizing r with
  | nil => exact h
  | cons t rest ih => exact ih (hreact t r h)

namespace Account.Kept

/-- The listeners change, and no notification is added. -/
theorem subscribe (hp : p.Lawful) (h : r.Kept p) : (r.subscribe p).Kept p :=
  ⟨h.tracks.subscribe hp, h.orderly.of_eq rfl rfl⟩

/-- The listeners change, and there is one departure more. -/
theorem unsubscribe (hp : p.Lawful) (h : r.Kept p) (ticket : Nat) :
    (r.unsubscribe p ticket).Kept p := by
  refine ⟨h.tracks.unsubscribe hp ticket, ?_⟩
  unfold Account.unsubscribe
  split
  · next hlt =>
    refine ⟨h.orderly.complete, fun d hd => ?_⟩
    rcases List.mem_append.mp hd with hd | hd
    · exact h.orderly.sole d hd
    · rw [List.mem_singleton.mp hd]
      exact sole_unsubscribe hp h.tracks hlt
  · exact h.orderly

/-- The state changes, and listeners do not. -/
theorem reach (hp : p.Lawful) (h : r.Kept p) (a : α) : (r.reach p a).Kept p :=
  ⟨h.tracks.of_eq rfl (hp.listeners_reached a), h.orderly.of_eq rfl rfl⟩

/-- A notification that has called everyone who was subscribed. -/
theorem round (h : after.Kept p) (hr : r.Tracks p) {n : Round σ ν} (hturns : n.turns = r.turns)
    (hcalls : n.calls.map Hearing.ticket = p.tickets r.state) :
    Account.Kept p { after with rounds := after.rounds ++ [n] } := by
  refine ⟨h.tracks.of_eq rfl rfl, fun m hm => ?_, h.orderly.sole⟩
  rcases List.mem_append.mp hm with hm | hm
  · exact h.orderly.complete m hm
  · rw [List.mem_singleton.mp hm]
    exact ⟨by rw [hcalls, hr.tickets, hturns], hcalls ▸ hr.nodup⟩

end Account.Kept

/-- **A course** keeps the account in order, from outside and from inside a listener, by induction
on the course. -/
theorem Course.perform_kept (hp : p.Lawful) (c : Course α) (h : r.Kept p) :
    (c.perform p r).Kept p := by
  induction c generalizing r with
  | done => exact h
  | subscribe rest ih => exact ih (h.subscribe hp)
  | unsubscribe ticket rest ih => exact ih (h.unsubscribe hp ticket)
  | call a reaction rest hreaction ih =>
    rw [perform]
    cases p.owed? r.state a with
    | none => exact ih (h.reach hp a)
    | some n =>
      -- what a listener does is a course of its own, for which the induction gives the same
      have hreact : ∀ t r, Account.Kept p r → ((reaction t).perform p r).Kept p :=
        fun t r hr => hreaction t hr
      have hkept := callEach_keeps hreact (p.tickets r.state) (h.reach hp a)
      exact ih (hkept.round h.tracks rfl (callEach_fst _ _ _))

/-- Before anything has happened. -/
theorem Account.Kept.start {s : σ} (h : p.listeners s = {}) : Account.Kept p { state := s } := by
  refine ⟨⟨?_, nofun, ?_⟩, nofun, nofun⟩
  · rw [h]
    rfl
  · rw [Subject.tickets, h]
    rfl

/-! ## What listeners find

The flag of an account says that a call has been cut short and nothing has made good for it. While it
is down the state is of the kind that calls establish. -/

/-- Calls keep `I`. They establish `A` when listeners have to be told of them, and keep it unless they
are cut short. Who listens does not matter to either. -/
structure Subject.Upholds (p : Subject σ α ν) (I A : σ → Prop) : Prop where
  keeps : ∀ {s} a, I s → I (p.reached s a)
  told : ∀ {s a n}, I s → p.owed? s a = some n → A (p.reached s a)
  uncut : ∀ {s a}, I s → A s → p.isCut s a = false → A (p.reached s a)
  keeps_with : ∀ {s} l, I s → I (p.withListeners s l)
  with_listeners : ∀ {s} l, A s → A (p.withListeners s l)

/-- Listeners have found `A`, and it holds unless a call has been cut short. -/
structure Account.Stands (I A : σ → Prop) (r : Account σ ν) : Prop where
  keeps : I r.state
  finds : r.Finds A
  holds : r.cut = false → A r.state

/-- Each listener finds what those before it have left. -/
theorem callEach_finds {I A : σ → Prop} {react : Nat → Account σ ν → Account σ ν}
    (hreact : ∀ t r, r.Stands I A → (react t r).Stands I A) (tickets : List Nat)
    (h : r.Stands I A) : ∀ c ∈ (callEach react tickets r).1, c.cut = false → A c.state := by
  induction tickets generalizing r with
  | nil => exact nofun
  | cons t rest ih => exact List.forall_mem_cons.mpr ⟨h.holds, ih (hreact t r h)⟩

/-- The first listener is called before any of them can have done anything. -/
theorem callEach_head (react : Nat → Account σ ν → Account σ ν) (tickets : List Nat)
    (h : r.cut = false) : ∀ c ∈ (callEach react tickets r).1.head?, c.cut = false := by
  cases tickets with
  | nil => exact nofun
  | cons t rest =>
    intro c hc
    obtain rfl := Option.some.inj hc
    exact h

namespace Account.Stands

variable {I A : σ → Prop}

/-- Someone joins, which does not matter. -/
theorem subscribe (hp : p.Lawful) (hA : p.Upholds I A) (h : r.Stands I A) :
    (r.subscribe p).Stands I A := by
  unfold Account.subscribe
  rw [hp.subscribe_eq]
  exact ⟨hA.keeps_with _ h.keeps, h.finds, fun hc => hA.with_listeners _ (h.holds hc)⟩

/-- Someone leaves, which does not matter. -/
theorem unsubscribe (hp : p.Lawful) (hA : p.Upholds I A) (h : r.Stands I A) (ticket : Nat) :
    (r.unsubscribe p ticket).Stands I A := by
  unfold Account.unsubscribe
  split
  · rw [hp.unsubscribe_eq]
    exact ⟨hA.keeps_with _ h.keeps, h.finds, fun hc => hA.with_listeners _ (h.holds hc)⟩
  · exact h

/-- A call is made. If listeners have to be told of it, what held before does not matter. -/
theorem reach (hA : p.Upholds I A) (h : r.Stands I A) (a : α) : (r.reach p a).Stands I A := by
  refine ⟨hA.keeps a h.keeps, h.finds, fun hcut => ?_⟩
  cases howed : p.owed? r.state a with
  | some n => exact hA.told h.keeps howed
  | none =>
    simp only [Account.reach, howed, Option.isNone_none, Bool.true_and, Bool.or_eq_false_iff]
      at hcut
    exact hA.uncut h.keeps (h.holds hcut.1) hcut.2

end Account.Stands

/-- **Listeners** find what calls establish, as long as no call is cut short, by induction on the
course. -/
theorem Course.perform_stands (hp : p.Lawful) {I A : σ → Prop} (hA : p.Upholds I A) (c : Course α)
    (h : r.Stands I A) : (c.perform p r).Stands I A := by
  induction c generalizing r with
  | done => exact h
  | subscribe rest ih => exact ih (h.subscribe hp hA)
  | unsubscribe ticket rest ih => exact ih (h.unsubscribe hp hA ticket)
  | call a reaction rest hreaction ih =>
    rw [perform]
    cases howed : p.owed? r.state a with
    | none => exact ih (h.reach hA a)
    | some n =>
      have hreach := h.reach hA a
      have hcut : (r.reach p a).cut = false := by simp [Account.reach, howed]
      have hreact : ∀ t r, Account.Stands I A r → ((reaction t).perform p r).Stands I A :=
        fun t r hr => hreaction t hr
      have hafter := callEach_keeps hreact (p.tickets r.state) hreach
      refine ih ⟨hafter.keeps, fun m hm => ?_, hafter.holds⟩
      -- the notifications that listeners have caused, and then this one
      rcases List.mem_append.mp hm with hm | hm
      · exact hafter.finds m hm
      · rw [List.mem_singleton.mp hm]
        exact ⟨callEach_head _ _ hcut, callEach_finds hreact (p.tickets r.state) hreach⟩

end DynamicForm.Listening
