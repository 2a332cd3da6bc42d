import DynamicForm.Subscribers
import Mathlib.Data.List.Nodup

/-!
# Tickets of subscribers

A notification goes over a copy of the table, so that a listener who is taken out by an earlier one
is still called this time, and no longer the next. What the table is afterwards needs a count of
tickets: to take out a ticket is to take out the listener who has it, and since tickets are handed
out in ascending order and never twice, there is one such listener at most.

- `Subscribers.Sound`: every listener has a ticket of its own that has been handed out.
- `Subscribers.notify_fst`: a notification calls everyone who is subscribed when it begins.
- `Subscribers.unsubscribe_of_mem`: with different tickets only one listener is taken out.
- `Subscribers.notify_snd`: those stay whom no listener takes out. `Subscribers.Stays` holds of a
  ticket that notifications leave alone.
-/

namespace DynamicForm.Subscribers

variable {s : Subscribers} {t : Nat}

/-- The tickets of those who are subscribed have been handed out, a different one to each. -/
structure Sound (s : Subscribers) : Prop where
  nodup : (s.active.map Subscriber.ticket).Nodup
  lt_next : ∀ t ∈ s.active.map Subscriber.ticket, t < s.next

theorem Sound.start : Sound {} := ⟨.nil, nofun⟩

/-- A new listener gets the next ticket, which nobody has had. -/
theorem Sound.subscribe (h : s.Sound) (drops : Nat → List Nat) : (s.subscribe drops).2.Sound := by
  constructor
  · rw [Subscribers.subscribe, List.map_append]
    exact h.nodup.append (List.nodup_singleton _) (List.disjoint_singleton.mpr fun hmem =>
      Nat.lt_irrefl _ (h.lt_next _ hmem))
  · rw [Subscribers.subscribe, List.map_append]
    refine List.forall_mem_append.mpr ⟨fun u hu => Nat.lt_succ_of_lt (h.lt_next u hu), ?_⟩
    exact List.forall_mem_singleton.mpr (Nat.lt_succ_self _)

theorem Sound.unsubscribe (h : s.Sound) (t : Nat) : (s.unsubscribe t).Sound where
  nodup := h.nodup.sublist (List.filter_sublist.map _)
  lt_next u hu := h.lt_next u ((List.filter_sublist.map _).subset hu)

/-- Tickets that are taken out, whether anybody has them or not, leave the others apart. -/
theorem Sound.foldl_unsubscribe (h : s.Sound) (ts : List Nat) :
    (ts.foldl Subscribers.unsubscribe s).Sound := by
  induction ts generalizing s with
  | nil => exact h
  | cons t rest ih => exact ih (h.unsubscribe t)

/-! ## Notifying

The listeners to call are fixed when the notification begins. The table may shrink while they are
called; it does not grow, since the model's listeners do nothing but drop out. -/

theorem Sound.callAll (h : s.Sound) (listeners : List Subscriber) :
    (s.callAll listeners).2.Sound := by
  induction listeners generalizing s with
  | nil => exact h
  | cons l rest ih => exact ih (h.foldl_unsubscribe l.drops)

/-- Who is called is read off the copy, not off the table that the calls change. -/
theorem callAll_fst (s : Subscribers) (listeners : List Subscriber) :
    (s.callAll listeners).1 = listeners.map Subscriber.ticket := by
  induction listeners generalizing s with
  | nil => rfl
  | cons l rest ih => exact congrArg (l.ticket :: ·) (ih _)

/-- A notification calls everyone who is subscribed when it begins, in order, whoever drops out
meanwhile. -/
theorem notify_fst (s : Subscribers) : s.notify.1 = s.active.map Subscriber.ticket :=
  s.callAll_fst s.active

/-! ## Unsubscribing -/

/-- Of listeners with different tickets, one is taken out. -/
theorem unsubscribe_of_mem (hnodup : (s.active.map Subscriber.ticket).Nodup)
    (h : t ∈ s.active.map Subscriber.ticket) :
    ∃ xs x ys, x.ticket = t ∧ s.active = xs ++ x :: ys ∧
      s.unsubscribe t = { s with active := xs ++ ys } := by
  obtain ⟨x, hx, rfl⟩ := List.mem_map.mp h
  obtain ⟨xs, ys, hsplit⟩ := List.append_of_mem hx
  refine ⟨xs, x, ys, rfl, hsplit, ?_⟩
  rw [hsplit, List.map_append, List.map_cons, List.nodup_middle, ← List.map_append,
    List.nodup_cons] at hnodup
  have hothers : ∀ y ∈ xs ++ ys, decide (y.ticket ≠ x.ticket) = true := fun y hy =>
    decide_eq_true fun heq => hnodup.1 (heq ▸ List.mem_map_of_mem hy)
  obtain ⟨hxs, hys⟩ := List.forall_mem_append.mp hothers
  rw [unsubscribe, hsplit, List.filter_append, List.filter_cons_of_neg (by simp),
    List.filter_eq_self.mpr hxs, List.filter_eq_self.mpr hys]

/-- Nobody has the ticket. -/
theorem unsubscribe_of_not_mem (h : t ∉ s.active.map Subscriber.ticket) : s.unsubscribe t = s := by
  have hothers : ∀ y ∈ s.active, decide (y.ticket ≠ t) = true := fun y hy =>
    decide_eq_true fun heq => h (heq ▸ List.mem_map_of_mem hy)
  rw [unsubscribe, List.filter_eq_self.mpr hothers]

/-! ## Staying

After a notification those are left whom nobody took out. A whole round of such removals is one
filter, for which the order does not matter. -/

/-- Tickets taken out one after the other are all taken out. -/
theorem foldl_unsubscribe (s : Subscribers) (ts : List Nat) : ts.foldl unsubscribe s =
    { s with active := s.active.filter fun l => l.ticket ∉ ts } := by
  induction ts generalizing s with
  | nil => simp
  | cons t rest ih =>
    rw [List.foldl_cons, ih, unsubscribe, List.filter_filter]
    simp [Bool.and_comm]

/-- The calls take out whatever any of those who are called takes out. -/
theorem callAll_snd (s : Subscribers) (listeners : List Subscriber) :
    (s.callAll listeners).2 =
      { s with
        active := s.active.filter fun l => l.ticket ∉ listeners.flatMap Subscriber.drops } := by
  induction listeners generalizing s with
  | nil => simp [callAll]
  | cons l rest ih =>
    have hrest : (s.callAll (l :: rest)).2 = ((l.drops.foldl unsubscribe s).callAll rest).2 := rfl
    rw [hrest, ih, foldl_unsubscribe, List.filter_filter]
    simp [List.flatMap_cons, Bool.and_comm]

/-- After a notification those are subscribed who were before, without those whom a listener took
out. -/
theorem notify_snd (s : Subscribers) : s.notify.2 =
    { s with active := s.active.filter fun l => l.ticket ∉ s.active.flatMap Subscriber.drops } :=
  s.callAll_snd s.active

/-- Someone is subscribed with the ticket, and no listener takes it out. -/
structure Stays (t : Nat) (s : Subscribers) : Prop where
  mem : t ∈ s.active.map Subscriber.ticket
  kept : ∀ l ∈ s.active, t ∉ l.drops

/-- Whom no listener takes out is still there after a notification, and still nobody's to take out.
-/
theorem Stays.notify (h : s.Stays t) : s.notify.2.Stays t := by
  rw [notify_snd]
  obtain ⟨l, hl, hticket⟩ := List.mem_map.mp h.mem
  have hkept : t ∉ s.active.flatMap Subscriber.drops := fun hmem =>
    let ⟨l, hl, hdrops⟩ := List.mem_flatMap.mp hmem
    h.kept l hl hdrops
  refine ⟨List.mem_map.mpr ⟨l, List.mem_filter.mpr ⟨hl, ?_⟩, hticket⟩, fun l hl => ?_⟩
  · rw [hticket]
    exact decide_eq_true hkept
  · exact h.kept l (List.mem_filter.mp hl).1

/-- Listeners take out tickets only that have been handed out. -/
def Issued (s : Subscribers) : Prop := ∀ l ∈ s.active, ∀ t ∈ l.drops, t < s.next

theorem Issued.filter (h : s.Issued) (keep : Subscriber → Bool) :
    Issued { s with active := s.active.filter keep } :=
  fun l hl => h l (List.mem_filter.mp hl).1

/-- Listeners who drop out take no new tickets with them: the others are as they were. -/
theorem Issued.notify (h : s.Issued) : s.notify.2.Issued := by
  rw [notify_snd]
  exact h.filter _

theorem Issued.subscribe (h : s.Issued) {drops : Nat → List Nat}
    (hdrops : ∀ t ∈ drops s.next, t < s.next + 1) : (s.subscribe drops).2.Issued :=
  List.forall_mem_append.mpr ⟨fun l hl t ht => Nat.lt_succ_of_lt (h l hl t ht),
    List.forall_mem_singleton.mpr hdrops⟩

/-- A new listener that takes out nobody stays. -/
theorem Issued.stays_subscribe (h : s.Issued) : (s.subscribe fun _ => []).2.Stays s.next where
  mem := by simp [Subscribers.subscribe]
  kept := List.forall_mem_append.mpr
    ⟨fun l hl hdrops => Nat.lt_irrefl _ (h l hl _ hdrops), by simp⟩

end DynamicForm.Subscribers
