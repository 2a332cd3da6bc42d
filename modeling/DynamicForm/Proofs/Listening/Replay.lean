import DynamicForm.Proofs.Listening.Order

/-!
# Calls as courses

The listeners that something comes with can do one thing when they are called, which is to
unsubscribe others. A call that notifies them is a course of which they are a special case: it leads
to the same state and calls the same listeners. Since a course notifies them of what they are owed, a
call that is the same as its course does so too.

- `Subject.act_eq_replay`: what a call does is what its course does.
- `Subject.Lawful.sound_act`: calls keep tickets apart.
-/

namespace DynamicForm.Listening

variable {σ α ν : Type} {p : Subject σ α ν} {r : Account σ ν} {l : Subscribers}

/-- Unsubscribes several, one after the other. -/
def Course.unsubscribing : List Nat → Course α
  | [] => .done
  | t :: rest => .unsubscribe t (unsubscribing rest)

/-- What listeners do that always unsubscribe the same. -/
def reactionOf (l : Subscribers) (t : Nat) : Course α :=
  .unsubscribing (((l.active.find? fun x => x.ticket = t).map Subscriber.drops).getD [])

/-- What a listener does is found by its ticket. -/
theorem reactionOf_ticket (h : l.Sound) {x : Subscriber} (hx : x ∈ l.active) :
    (reactionOf l x.ticket : Course α) = .unsubscribing x.drops := by
  have hfind : (l.active.find? fun y => y.ticket = x.ticket) = some x := by
    cases hy : l.active.find? fun y => y.ticket = x.ticket with
    | none => exact absurd (by simp) (List.find?_eq_none.mp hy x hx)
    | some y =>
      have hticket : y.ticket = x.ticket := by simpa using List.find?_some hy
      rw [List.inj_on_of_nodup_map h.nodup (List.mem_of_find?_eq_some hy) hx hticket]
  rw [reactionOf, hfind]
  rfl

/-! ## Unsubscribing -/

theorem unsubscribe_state (hp : p.Lawful) (h : (p.listeners r.state).Sound) (t : Nat) :
    (r.unsubscribe p t).state = p.withListeners r.state ((p.listeners r.state).unsubscribe t) := by
  unfold Account.unsubscribe
  split
  · exact hp.unsubscribe_eq _ _
  · next hlate =>
    have hgone : t ∉ (p.listeners r.state).active.map Subscriber.ticket := fun ht =>
      hlate (h.lt_next t ht)
    rw [Subscribers.unsubscribe_of_not_mem hgone, hp.with_listeners]

theorem unsubscribe_rounds (r : Account σ ν) (t : Nat) : (r.unsubscribe p t).rounds = r.rounds := by
  unfold Account.unsubscribe
  split <;> rfl

theorem perform_unsubscribing (hp : p.Lawful) (h : (p.listeners r.state).Sound)
    (ts : List Nat) :
    ((Course.unsubscribing ts).perform p r).state =
        p.withListeners r.state (ts.foldl Subscribers.unsubscribe (p.listeners r.state)) ∧
      ((Course.unsubscribing ts).perform p r).rounds = r.rounds := by
  induction ts generalizing r with
  | nil => exact ⟨(hp.with_listeners _).symm, rfl⟩
  | cons t rest ih =>
    have hstate := unsubscribe_state hp h t
    have hlisteners := congrArg p.listeners hstate
    rw [hp.listeners_with] at hlisteners
    obtain ⟨hrest, hrounds⟩ := ih (hlisteners ▸ h.unsubscribe t)
    refine ⟨hrest.trans ?_, hrounds.trans (unsubscribe_rounds r t)⟩
    rw [hlisteners, hstate, hp.with_with, List.foldl_cons]

/-! ## Calling -/

/-- A row of calls of listeners that are known from the beginning. -/
theorem callEach_reactionOf (hp : p.Lawful) (hl : l.Sound) {xs : List Subscriber}
    (hxs : ∀ x ∈ xs, x ∈ l.active) (h : (p.listeners r.state).Sound) :
    let after := (callEach (fun t => (reactionOf l t).perform p)
      (xs.map Subscriber.ticket) r).2
    after.state = p.withListeners r.state ((p.listeners r.state).callAll xs).2 ∧
      after.rounds = r.rounds := by
  induction xs generalizing r with
  | nil => exact ⟨(hp.with_listeners _).symm, rfl⟩
  | cons x rest ih =>
    obtain ⟨hx, hrest⟩ := List.forall_mem_cons.mp hxs
    obtain ⟨hstate, hrounds⟩ := perform_unsubscribing hp h x.drops
    rw [← reactionOf_ticket hl hx] at hstate hrounds
    have hlisteners := congrArg p.listeners hstate
    rw [hp.listeners_with] at hlisteners
    obtain ⟨hend, hcalls⟩ := ih hrest (hlisteners ▸ h.foldl_unsubscribe x.drops)
    refine ⟨hend.trans ?_, hcalls.trans hrounds⟩
    rw [hlisteners, hstate, hp.with_with]
    rfl

/-- What comes of the course of a call in which every listener does what it always does. -/
def Subject.replay (p : Subject σ α ν) (s : σ) (a : α) : σ × List (Nat × ν) :=
  let r := (Course.call a (reactionOf (p.listeners s)) .done).perform p { state := s }
  (r.state, r.rounds.flatMap fun n => n.calls.map fun c => (c.ticket, n.told))

/-- **A call as a course.** The state that it leads to and the listeners that it calls are those of
its course. -/
theorem Subject.act_eq_replay (hp : p.Lawful) {s : σ} (h : (p.listeners s).Sound) (a : α) :
    p.act s a = p.replay s a := by
  have hreached := hp.listeners_reached (s := s) a
  rw [hp.act_eq, replay, Course.perform]
  cases p.owed? s a with
  -- nobody is called, so only what the subject holds has changed
  | none =>
    refine Prod.ext ?_ rfl
    change p.withListeners (p.reached s a) (p.listeners s) = p.reached s a
    rw [← hreached, hp.with_listeners]
  -- those who drop out while they are called leave the same table as one filter
  | some n =>
    have hcalls := callEach_fst (fun t => (reactionOf (p.listeners s) t).perform p)
      (p.tickets s) (Account.reach p a { state := s })
    obtain ⟨hstate, hrounds⟩ := callEach_reactionOf (r := Account.reach p a { state := s })
      hp h (fun _ hx => hx) (by rw [Account.reach, hreached]; exact h)
    rw [← Subject.tickets] at hstate hrounds
    rcases hrun : callEach (fun t => (reactionOf (p.listeners s) t).perform p) (p.tickets s)
      (Account.reach p a { state := s }) with ⟨calls, after⟩
    rw [hrun] at hcalls hstate hrounds
    refine Prod.ext ?_ ?_
    · refine Eq.trans ?_ hstate.symm
      rw [Account.reach, hreached]
      rfl
    · change (p.listeners s).notify.1.map _ = List.flatMap _ (after.rounds ++ _)
      rw [hrounds, Subscribers.notify_fst, ← Subject.tickets, ← hcalls]
      simp [Account.reach]

/-- Tickets stay apart in a call. -/
theorem Subject.Lawful.sound_act (hp : p.Lawful) {s : σ} (h : (p.listeners s).Sound) (a : α) :
    (p.listeners (p.act s a).1).Sound := by
  rw [hp.act_eq]
  cases p.owed? s a with
  | none => rwa [notified, hp.listeners_with]
  | some n =>
    rw [notified, hp.listeners_with]
    exact h.callAll _

end DynamicForm.Listening
