import DynamicForm.Form.Loading
import Mathlib

/-!
# Two sources, one outcome

Sources end in any order and in any way, and loading goes on at any moment in between. All the same,
where everything is can be told from the order in which the sources have ended: a form is built only
from two values, the first error is the one that is raised, and it is raised only when both sources
have come to their end, a cancelled one after its cleanup.

- `Loader.Accounts` is what holds at every moment; `Loader.accounts_run` by induction on what has
  happened.
- `Loader.Accounts.concludes`: when both sources have ended, loading goes on at most twice.
- `Loading.FailsFirst` singles out the source whose error counts.
- `load_concludes`: how loading comes to its end, whenever and however the sources do.
-/

namespace DynamicForm

/-- How a source has ended, if it has. -/
def SourceState.end? : SourceState → Option SourceEnd
  | running => none
  | stopping => none
  | ended e => some e
  | stopped e => some e

/-- The source has been left alone. -/
def SourceState.isFree : SourceState → Bool
  | running => true
  | ended _ => true
  | _ => false

/-- Loading has come to its end. -/
def Stage.isFinal : Stage → Bool
  | raised _ => true
  | built _ _ => true
  | _ => false

theorem SourceState.end?_cancel (s : SourceState) : s.cancel.end? = s.end? := by
  cases s <;> rfl

theorem SourceState.cancel_ne_running (s : SourceState) : s.cancel ≠ running := by
  cases s <;> exact nofun

theorem SourceState.cancel_of_isOver {s : SourceState} (h : s.isOver = true) : s.cancel = s := by
  cases s <;> first | rfl | cases h

theorem SourceState.isOver_iff {s : SourceState} : s.isOver = true ↔ ∃ e, s.end? = some e := by
  cases s <;> simp [isOver, end?]

/-- A source that has been left alone and is over has ended by itself. -/
theorem SourceState.eq_ended {s : SourceState} (hfree : s.isFree = true) (hover : s.isOver = true) :
    ∃ e, s = .ended e := by
  cases s
  case ended e => exact ⟨e, rfl⟩
  case running => cases hover
  all_goals cases hfree

theorem SourceEnd.error?_eq_none {e : SourceEnd} : e.error? = none ↔ ∃ v, e = .resolved v := by
  cases e <;> simp [error?]

theorem Part.other_other (p : Part) : p.other.other = p := by
  cases p <;> rfl

theorem Part.eq_or_eq_other (p q : Part) : q = p ∨ q = p.other := by
  cases p <;> cases q <;> simp [Part.other]

namespace Loader

variable {l : Loader} {es : List (Part × SourceEnd)} {p q : Part} {e : SourceEnd} {err : LoadError}

/-! ## Ends in order

Two orders have to be kept apart: that in which the sources end, and that in which loading takes
notice of it. Everything is stated in terms of the first one. -/

/-- How a source has ended, if it has. -/
def endOf (es : List (Part × SourceEnd)) (p : Part) : Option SourceEnd :=
  (es.find? fun x => x.1 = p).map Prod.snd

/-- Enters the end of a source, once for each source. -/
def enter (es : List (Part × SourceEnd)) : Happening → List (Part × SourceEnd)
  | .ends p e => if (endOf es p).isSome then es else es ++ [(p, e)]
  | .resumes => es

/-- How the sources have ended, in order. -/
def endsIn (hs : List Happening) : List (Part × SourceEnd) := hs.foldl enter []

/-- The error that came first. -/
def firstError (es : List (Part × SourceEnd)) : Option LoadError :=
  es.findSome? fun x => x.2.error?

theorem enter_of_none (h : endOf es p = none) (e : SourceEnd) :
    enter es (.ends p e) = es ++ [(p, e)] := by
  simp [enter, h]

theorem enter_of_some {f : SourceEnd} (h : endOf es p = some f) (e : SourceEnd) :
    enter es (.ends p e) = es := by
  simp [enter, h]

theorem endOf_append (q p : Part) (e : SourceEnd) :
    endOf (es ++ [(p, e)]) q = (endOf es q).or (if p = q then some e else none) := by
  rw [endOf, endOf, List.find?_append]
  cases es.find? fun x => x.1 = q with
  | some x => rfl
  | none => by_cases hpq : p = q <;> simp [hpq]

theorem firstError_append (p : Part) (e : SourceEnd) :
    firstError (es ++ [(p, e)]) = (firstError es).or e.error? := by
  rw [firstError, List.findSome?_append, firstError, List.findSome?_cons]
  cases e.error? <;> rfl

/-- A source that has ended has done so without an error, if there has been none. -/
theorem error?_eq_none_of_endOf (h : firstError es = none) (he : endOf es p = some e) :
    e.error? = none := by
  obtain ⟨x, hx, rfl⟩ := Option.map_eq_some_iff.mp he
  exact List.findSome?_eq_none_iff.mp h x (List.mem_of_find?_eq_some hx)

/-! ## One step

A step is the end of a source or a moment at which loading goes on. Between the two, anything may
happen to the other source. -/

theorem note_source (p : Part) (state : SourceState) (q : Part) :
    (l.note p state).source q = if q = p then state else l.source q := rfl

/-- Where loading can be, given how the sources have ended and where they are. -/
inductive StageFits (es : List (Part × SourceEnd)) (source : Part → SourceState) : Stage → Prop where
  | waiting : firstError es = none → (∀ p, (source p).isFree = true) → StageFits es source .waiting
  | woken {err : LoadError} : firstError es = some err → (∀ p, (source p).isFree = true) →
      StageFits es source (.woken err)
  /-- What was running has been cancelled. -/
  | stopping {err : LoadError} : firstError es = some err → (∀ p, source p ≠ .running) →
      StageFits es source (.stopping err)
  /-- Nothing is left to wait for. -/
  | raised {err : LoadError} : firstError es = some err → (∀ p, (source p).isOver = true) →
      StageFits es source (.raised err)
  | built {d v : Value} : firstError es = none → source .definition = .ended (.resolved d) →
      source .values = .ended (.resolved v) →
      StageFits es source (.built (Loading.build d v).1 (Loading.build d v).2)

/-- Where everything is fits how the sources have ended. -/
structure Accounts (es : List (Part × SourceEnd)) (l : Loader) : Prop where
  ended : ∀ p, (l.source p).end? = endOf es p
  stage : StageFits es l.source l.stage

/-- When loading has come to its end, so have the sources. -/
theorem StageFits.isOver_of_built {source : Part → SourceState} {notices : List Notice}
    {form : Except LoadError Form} (h : StageFits es source (.built notices form)) (p : Part) :
    (source p).isOver = true := by
  cases h with
  | built hnone hd hv =>
    cases p with
    | definition => rw [hd]; rfl
    | values => rw [hv]; rfl

/-- The end of a source is entered. -/
theorem Accounts.ends_note (h : Accounts es l) {state : SourceState} (hnone : endOf es p = none)
    (hstate : state.end? = some e) (q : Part) :
    ((l.note p state).source q).end? = endOf (es ++ [(p, e)]) q := by
  rw [note_source, endOf_append]
  by_cases hq : q = p
  · subst hq
    rw [if_pos rfl, if_pos rfl, hnone, hstate]
    rfl
  · rw [if_neg hq, if_neg (Ne.symm hq), Option.or_none, h.ended q]

/-- The error of a source that ends by itself wakes loading up. -/
theorem StageFits.wake {source : Part → SourceState} {stage : Stage} (h : StageFits es source stage)
    (hp : source p = .running) (e : SourceEnd) :
    StageFits (es ++ [(p, e)]) (fun q => if q = p then .ended e else source q)
      (stage.wake e.error?) := by
  have hover : (source p).isOver = false := by rw [hp]; rfl
  have hfree (hall : ∀ q, (source q).isFree = true) (q : Part) :
      (if q = p then SourceState.ended e else source q).isFree = true := by
    split
    · rfl
    · exact hall q
  cases h with
  -- the first error wakes loading up
  | waiting hfirst hall =>
    have hfirst' : firstError (es ++ [(p, e)]) = e.error? := by
      rw [firstError_append, hfirst, Option.none_or]
    cases herr : e.error? with
    | none => exact .waiting (hfirst'.trans herr) (hfree hall)
    | some err => exact .woken (hfirst'.trans herr) (hfree hall)
  -- a second one comes too late
  | woken hfirst hall =>
    refine .woken ?_ (hfree hall)
    rw [firstError_append, hfirst, Option.some_or]
  -- in the other stages no source is running
  | stopping hfirst hall => exact absurd hp (hall p)
  | raised hfirst hall => cases (hall p).symm.trans hover
  | built hfirst hd hv => cases (isOver_of_built (.built hfirst hd hv) p).symm.trans hover

/-- A cancelled source can end as it likes. -/
theorem StageFits.stop {source : Part → SourceState} {stage : Stage} (h : StageFits es source stage)
    (hp : source p = .stopping) (e : SourceEnd) :
    StageFits (es ++ [(p, e)]) (fun q => if q = p then .stopped e else source q) stage := by
  have hover : (source p).isOver = false := by rw [hp]; rfl
  have hfree : (source p).isFree = false := by rw [hp]; rfl
  cases h with
  | waiting hfirst hall => cases (hall p).symm.trans hfree
  | woken hfirst hall => cases (hall p).symm.trans hfree
  | stopping hfirst hall =>
    refine .stopping ?_ fun q => ?_
    · rw [firstError_append, hfirst, Option.some_or]
    · split
      · exact nofun
      · exact hall q
  | raised hfirst hall => cases (hall p).symm.trans hover
  | built hfirst hd hv => cases (isOver_of_built (.built hfirst hd hv) p).symm.trans hover

/-- **A source ends.** -/
theorem Accounts.ends (h : Accounts es l) (p : Part) (e : SourceEnd) :
    Accounts (enter es (.ends p e)) (l.ends p e) := by
  have hp := h.ended p
  unfold Loader.ends
  cases hstate : l.source p with
  | running =>
    rw [hstate] at hp
    rw [enter_of_none hp.symm]
    exact ⟨h.ends_note hp.symm rfl, h.stage.wake hstate e⟩
  | stopping =>
    rw [hstate] at hp
    rw [enter_of_none hp.symm]
    exact ⟨h.ends_note hp.symm rfl, h.stage.stop hstate e⟩
  -- a source that has ended does not end again
  | ended f =>
    rw [hstate] at hp
    rw [enter_of_some hp.symm]
    exact h
  | stopped f =>
    rw [hstate] at hp
    rw [enter_of_some hp.symm]
    exact h

/-- **Loading goes on.** -/
theorem Accounts.resumes (h : Accounts es l) : Accounts es l.resumes := by
  have hstage := h.stage
  unfold Loader.resumes
  generalize hst : l.stage = stage at hstage
  cases hstage with
  | waiting hfirst hall =>
    dsimp only
    split
    · next d v hd hv => exact ⟨h.ended, .built hfirst hd hv⟩
    · exact h
  -- what is running is cancelled, which ends nothing yet
  | woken hfirst hall =>
    refine ⟨fun p => ?_, .stopping hfirst fun p => ?_⟩
    · exact (SourceState.end?_cancel _).trans (h.ended p)
    · exact SourceState.cancel_ne_running _
  | stopping hfirst hall =>
    dsimp only
    split
    · next hover =>
      obtain ⟨hd, hv⟩ := Bool.and_eq_true_iff.mp hover
      refine ⟨h.ended, .raised hfirst fun p => ?_⟩
      cases p with
      | definition => exact hd
      | values => exact hv
    · exact h
  | raised hfirst hall => exact h
  | built hfirst hd hv => exact h

/-- **Whatever happens**, where everything is fits how the sources have ended. -/
theorem accounts_run (hs : List Happening) : Accounts (endsIn hs) (run hs) := by
  have hfrom : ∀ {es l}, Accounts es l → Accounts (hs.foldl enter es) (hs.foldl step l) := by
    induction hs with
    | nil => exact id
    | cons x rest ih =>
      intro es l h
      cases x with
      | ends p e => exact ih (h.ends p e)
      | resumes => exact ih h.resumes
  exact hfrom ⟨fun _ => rfl, .waiting rfl fun _ => rfl⟩

/-! ## The end of loading -/

/-- Nothing comes after the end. -/
theorem isFinal_resumes (h : l.stage.isFinal = true) : l.resumes.stage.isFinal = true := by
  obtain ⟨source, stage⟩ := l
  cases stage <;> first | rfl | cases h

/-- A source that is over stays as it is. -/
theorem resumes_source (h : (l.source p).isOver = true) : l.resumes.source p = l.source p := by
  unfold resumes
  split
  · split <;> rfl
  · exact SourceState.cancel_of_isOver h
  · split <;> rfl
  · rfl

/-- Values that both sources have given are there to build a form from. -/
theorem Accounts.resolved (h : Accounts es l) (hfirst : firstError es = none)
    (hfree : (l.source p).isFree = true) (hover : (l.source p).isOver = true) :
    ∃ v, l.source p = .ended (.resolved v) := by
  obtain ⟨e, he⟩ := SourceState.eq_ended hfree hover
  have hended : endOf es p = some e := by
    rw [← h.ended p, he]
    rfl
  obtain ⟨v, rfl⟩ := SourceEnd.error?_eq_none.mp (error?_eq_none_of_endOf hfirst hended)
  exact ⟨v, he⟩

/-- **When both sources have ended**, loading comes to its end as soon as it goes on twice. -/
theorem Accounts.isFinal (h : Accounts es l) (hall : ∀ p, (l.source p).isOver = true) :
    l.resumes.resumes.stage.isFinal = true := by
  have hboth : ((l.source .definition).isOver && (l.source .values).isOver) = true := by
    rw [hall, hall]
    rfl
  have hstage := h.stage
  generalize hst : l.stage = stage at hstage
  cases hstage with
  -- both have ended without an error, so both have given a value
  | waiting hfirst hfree =>
    obtain ⟨d, hd⟩ := h.resolved hfirst (hfree .definition) (hall .definition)
    obtain ⟨v, hv⟩ := h.resolved hfirst (hfree .values) (hall .values)
    have hbuilt : l.resumes.stage.isFinal = true := by
      simp only [Loader.resumes, hst, hd, hv]
      rfl
    exact isFinal_resumes hbuilt
  -- there is nothing left to cancel, so the second time the error is raised
  | woken hfirst hfree =>
    have hresumes : l.resumes.source = l.source :=
      funext fun p => resumes_source (hall p)
    obtain ⟨err, hstopping⟩ : ∃ err, l.resumes.stage = .stopping err := by
      simp only [Loader.resumes, hst]
      exact ⟨_, rfl⟩
    rw [Loader.resumes.eq_def l.resumes]
    simp only [hstopping, hresumes, hboth, if_true]
    rfl
  | stopping hfirst hcancelled =>
    have hraised : l.resumes.stage.isFinal = true := by
      simp only [Loader.resumes, hst, hboth, if_true]
      rfl
    exact isFinal_resumes hraised
  -- nothing happens after the end
  | raised hfirst hover =>
    have hfinal : l.stage.isFinal = true := by rw [hst]; rfl
    exact isFinal_resumes (isFinal_resumes hfinal)
  | built hfirst hd hv =>
    have hfinal : l.stage.isFinal = true := by rw [hst]; rfl
    exact isFinal_resumes (isFinal_resumes hfinal)

/-- **The first error is raised**, and without one the form is built from what the sources have
given. -/
theorem Accounts.concludes (h : Accounts es l) (hall : ∀ p, (l.source p).isOver = true) :
    (∀ err, firstError es = some err → l.resumes.resumes.stage = .raised err) ∧
    (firstError es = none → ∃ d v, endOf es .definition = some (.resolved d) ∧
      endOf es .values = some (.resolved v) ∧
      l.resumes.resumes.stage = .built (Loading.build d v).1 (Loading.build d v).2) := by
  have hfinal := h.isFinal hall
  obtain ⟨hended, hstage⟩ := h.resumes.resumes
  generalize hst : l.resumes.resumes.stage = stage at hstage hfinal
  cases hstage with
  | raised hfirst hover =>
    refine ⟨fun err herr => ?_, fun hnone => ?_⟩
    · rw [Option.some.inj (hfirst.symm.trans herr)]
    · cases hfirst.symm.trans hnone
  | built hfirst hd hv =>
    refine ⟨fun err herr => ?_, fun hnone => ⟨_, _, ?_, ?_, rfl⟩⟩
    · cases hfirst.symm.trans herr
    · rw [← hended, hd]
      rfl
    · rw [← hended, hv]
      rfl
  | _ => cases hfinal

theorem run_append (before after : List Happening) :
    run (before ++ after) = after.foldl step (run before) :=
  List.foldl_append

/-- What has been seen before stays in the log. -/
theorem log_append (s : Part → Source) (before after : List (Nat × Happening)) :
    log s l (before ++ after) =
      log s l before ++ log s ((before.map Prod.snd).foldl step l) after := by
  induction before generalizing l with
  | nil => rfl
  | cons x rest ih => rw [List.cons_append, log, log, ih, List.append_assoc]; rfl

/-- What is seen when something happens stands in the log under its time. -/
theorem mem_log {s : Part → Source} {before after : List (Nat × Happening)} {t : Nat}
    {x : Happening} {event : Part × SourceEvent}
    (h : event ∈ (run (before.map Prod.snd)).seen s x) :
    (t, event) ∈ log s {} (before ++ (t, x) :: after) := by
  rw [log_append, log]
  exact List.mem_append_right _ (List.mem_append_left _ (List.mem_map_of_mem h))

end Loader

namespace Loading

variable {s : Part → Source} {p : Part} {err : LoadError}

/-! ## Sources with times

With times for the ends, and for the cleanup of a source that is cancelled, the order of what
happens is fixed. Two courses are possible: both sources end before loading goes on, or one ends and
loading goes on before the other does. -/

/-- The source fails, and the other does not fail before. -/
def FailsFirst (s : Part → Source) (p : Part) (err : LoadError) : Prop :=
  (s p).outcome.error? = some err ∧ ((s p.other).outcome.error? = none ∨ first s = p)

/-- After the source has failed the other one is cancelled, and loading ends when that one has come
to its end. -/
structure CutShort (s : Part → Source) (p : Part) (loading : Loading) : Prop where
  stopped : loading.loader.source p.other = .stopped (s p.other).stopOutcome
  cancelled : ((s p).endsAt, p.other, .cancelled) ∈ loading.log
  endsAt : loading.endsAt = (s p).endsAt + (s p.other).stopsIn
  cleanedUp : (s p.other).cleanup.isSome = true →
    (loading.endsAt, p.other, .cleanedUp) ∈ loading.log

/-- Where everything is when one source has ended and loading has gone on. -/
theorem run_beginning (s : Part → Source) (p : Part) :
    let l := Loader.run ((beginning s p).map Prod.snd)
    l.source p = .ended (s p).outcome ∧
      l.source p.other = if (s p).outcome.error?.isSome then .stopping else .running := by
  change (Loader.run [.ends p (s p).outcome, .resumes, .resumes]).source p = _ ∧
    (Loader.run [.ends p (s p).outcome, .resumes, .resumes]).source p.other = _
  generalize (s p).outcome = o
  cases p <;> cases o <;> exact ⟨rfl, rfl⟩

/-- A source that fails has the other one cancelled. -/
theorem rest_of_error (h : (s p).outcome.error? = some err) :
    rest s p = ((s p).endsAt + (s p.other).stopsIn, .ends p.other (s p.other).stopOutcome) := by
  obtain ⟨-, hother⟩ := run_beginning s p
  rw [h] at hother
  rw [rest, hother]
  rfl

/-- A source that gives a value leaves the other one alone. -/
theorem rest_of_value (h : (s p).outcome.error? = none) : rest s p = completion s p.other := by
  obtain ⟨-, hother⟩ := run_beginning s p
  rw [h] at hother
  rw [rest, hother]
  rfl

/-- **Two ends.** When the sources have ended in this order and loading goes on twice, the sources
stay as they are and loading has come to its end. -/
theorem concludes_pair {before : List Happening} {o e : SourceEnd}
    (h : Loader.endsIn before = [(p, o), (p.other, e)]) :
    let l := (Loader.run before).resumes.resumes
    (∀ q, l.source q = (Loader.run before).source q) ∧
    (∀ err, o.error?.or e.error? = some err → l.stage = .raised err) ∧
    (o.error?.or e.error? = none → ∃ d v,
      Loader.endOf [(p, o), (p.other, e)] .definition = some (.resolved d) ∧
      Loader.endOf [(p, o), (p.other, e)] .values = some (.resolved v) ∧
      l.stage = .built (build d v).1 (build d v).2) := by
  have haccounts := Loader.accounts_run before
  rw [h] at haccounts
  have hover : ∀ q, ((Loader.run before).source q).isOver = true := by
    intro q
    rw [SourceState.isOver_iff, haccounts.ended]
    cases p <;> cases q <;> exact ⟨_, rfl⟩
  have hkept : ∀ q, (Loader.run before).resumes.source q = (Loader.run before).source q :=
    fun q => Loader.resumes_source (hover q)
  -- the error of the one that has ended first is found first
  have hfirst : Loader.firstError [(p, o), (p.other, e)] = o.error?.or e.error? := by
    rw [Loader.firstError, List.findSome?_cons, List.findSome?_cons]
    cases o.error? <;> cases e.error? <;> rfl
  rw [← hfirst]
  refine ⟨fun q => ?_, haccounts.concludes hover⟩
  rw [Loader.resumes_source (by rw [hkept]; exact hover q), hkept]

/-- Sources that end at the same time do so before loading goes on. -/
theorem timeline_of_le (h : (s (first s).other).endsAt ≤ (s (first s)).endsAt) :
    timeline s = [completion s (first s), completion s (first s).other] ++
      resumption (s (first s)).endsAt := by
  rw [timeline]
  exact if_pos h

theorem timeline_of_lt (h : (s (first s)).endsAt < (s (first s).other).endsAt) :
    timeline s = (beginning s (first s) ++ [rest s (first s)]) ++
      resumption (rest s (first s)).1 := by
  rw [timeline]
  refine (if_neg (Nat.not_le.mpr h)).trans ?_
  rw [List.append_assoc]
  rfl

/-- Loading ends when it has gone on twice after the ends of the sources. -/
theorem load_eq {definition values : Source} {before : List (Nat × Happening)} {t : Nat}
    (h : timeline (sources definition values) = before ++ resumption t) :
    load definition values =
      { log := Loader.log (sources definition values) {} (before ++ resumption t)
        endsAt := t
        loader := (Loader.run (before.map Prod.snd)).resumes.resumes } := by
  have hlast : ((before ++ resumption t).getLast?.map Prod.fst).getD 0 = t := by
    rw [List.getLast?_append]
    rfl
  have hloader : Loader.run ((before ++ resumption t).map Prod.snd) =
      (Loader.run (before.map Prod.snd)).resumes.resumes := by
    rw [List.map_append, Loader.run_append]
    rfl
  simp only [load, h, hlast, hloader]

/-- How everything ends when one source ends and then the other, in the two ways in which that can
be. -/
theorem endsIn_together (p : Part) (o e : SourceEnd) :
    Loader.endsIn [.ends p o, .ends p.other e] = [(p, o), (p.other, e)] := by
  cases p <;> rfl

theorem endsIn_apart (p : Part) (o e : SourceEnd) :
    Loader.endsIn [.ends p o, .resumes, .resumes, .ends p.other e] = [(p, o), (p.other, e)] := by
  cases p <;> rfl

theorem source_together (p : Part) (o e : SourceEnd) :
    let l := Loader.run [.ends p o, .ends p.other e]
    l.source p = .ended o ∧ l.source p.other = .ended e := by
  cases p <;> exact ⟨rfl, rfl⟩

/-- The first source stays as it is, and the other one has ended by itself or been stopped. -/
theorem source_apart (p : Part) (o e : SourceEnd) :
    let l := Loader.run [.ends p o, .resumes, .resumes, .ends p.other e]
    l.source p = .ended o ∧
      l.source p.other = if o.error?.isSome then .stopped e else .ended e := by
  cases p <;> cases o <;> exact ⟨rfl, rfl⟩

/-- What comes of two sources that both end by themselves. -/
structure Uncut (s : Part → Source) (p : Part) (loading : Loading) : Prop where
  endsAt : loading.endsAt = (s p.other).endsAt
  ended : ∀ q, loading.loader.source q = .ended (s q).outcome
  raised : ∀ err, (s p).outcome.error?.or (s p.other).outcome.error? = some err →
    loading.loader.stage = .raised err
  built : (s p).outcome.error?.or (s p.other).outcome.error? = none →
    ∃ d v, (s .definition).outcome = .resolved d ∧ (s .values).outcome = .resolved v ∧
      loading.loader.stage = .built (build d v).1 (build d v).2

theorem uncut_of_ended {definition values : Source} (hs : sources definition values = s)
    {before : List (Nat × Happening)}
    (hline : timeline s = before ++ resumption (s p.other).endsAt)
    (hends : Loader.endsIn (before.map Prod.snd) =
      [(p, (s p).outcome), (p.other, (s p.other).outcome)])
    (hended : ∀ q, (Loader.run (before.map Prod.snd)).source q = .ended (s q).outcome) :
    Uncut s p (load definition values) := by
  rw [← hs] at hline
  have hload := load_eq hline
  rw [hs] at hload
  obtain ⟨hkept, hraised, hbuilt⟩ := concludes_pair hends
  have hendOf : ∀ q, Loader.endOf [(p, (s p).outcome), (p.other, (s p.other).outcome)] q =
      some (s q).outcome := by
    intro q
    cases p <;> cases q <;> rfl
  rw [hload]
  refine ⟨rfl, fun q => (hkept q).trans (hended q), hraised, fun hnone => ?_⟩
  obtain ⟨d, v, hd, hv, hstage⟩ := hbuilt hnone
  rw [hendOf] at hd hv
  exact ⟨d, v, Option.some.inj hd, Option.some.inj hv, hstage⟩

theorem first_endsAt_le (s : Part → Source) :
    (s (first s)).endsAt ≤ (s (first s).other).endsAt := by
  unfold first
  split
  · assumption
  · exact Nat.le_of_not_le ‹_›

/-- When the first source leaves the other one alone, both end by themselves. -/
theorem load_uncut {definition values : Source} (hs : sources definition values = s)
    (h : (s (first s).other).endsAt ≤ (s (first s)).endsAt ∨
      (s (first s)).outcome.error? = none) :
    Uncut s (first s) (load definition values) := by
  generalize hp : first s = p at h
  by_cases hle : (s p.other).endsAt ≤ (s p).endsAt
  -- both end at the same time, so neither is there to be cancelled
  · have hsame : (s p).endsAt = (s p.other).endsAt :=
      Nat.le_antisymm (hp ▸ first_endsAt_le s) hle
    have hline := timeline_of_le (hp ▸ hle : (s (first s).other).endsAt ≤ (s (first s)).endsAt)
    rw [hp, hsame] at hline
    refine uncut_of_ended hs hline (endsIn_together ..) fun q => ?_
    obtain ⟨hfirst, hother⟩ := source_together p (s p).outcome (s p.other).outcome
    rcases Part.eq_or_eq_other p q with rfl | rfl
    · exact hfirst
    · exact hother
  -- the first source has ended before the other one, and with a value
  · have hnone := h.resolve_left hle
    have hlt := Nat.not_le.mp hle
    have hline := timeline_of_lt (hp ▸ hlt : (s (first s)).endsAt < (s (first s).other).endsAt)
    rw [hp, rest_of_value hnone] at hline
    refine uncut_of_ended hs hline (endsIn_apart ..) fun q => ?_
    obtain ⟨hfirst, hother⟩ := source_apart p (s p).outcome (s p.other).outcome
    rw [hnone] at hother
    rcases Part.eq_or_eq_other p q with rfl | rfl
    · exact hfirst
    · exact hother

/-- What is seen when loading goes on after a failure. -/
theorem seen_cancelled {o : SourceEnd} (h : o.error? = some err) :
    (Loader.run [.ends p o]).seen s .resumes = [(p.other, .cancelled)] := by
  cases p <;> cases o <;> first | rfl | cases h

/-- What is seen when a source that has been cancelled comes to its end. -/
theorem seen_cleanedUp (herr : (s p).outcome.error? = some err)
    (hcleanup : (s p.other).cleanup.isSome = true) :
    (Loader.run ((beginning s p).map Prod.snd)).seen s
      (.ends p.other (s p.other).stopOutcome) = [(p.other, .cleanedUp)] := by
  obtain ⟨-, hother⟩ := run_beginning s p
  rw [herr] at hother
  dsimp only [Loader.seen]
  rw [hother]
  exact if_pos hcleanup

/-- When the first source fails before the other one has ended, that one is cut short. -/
theorem load_cutShort {definition values : Source} (hs : sources definition values = s)
    (hlt : (s (first s)).endsAt < (s (first s).other).endsAt)
    (herr : (s (first s)).outcome.error? = some err) :
    (load definition values).loader.stage = .raised err ∧
      CutShort s (first s) (load definition values) := by
  have hline := timeline_of_lt hlt
  generalize first s = p at hlt herr hline
  rw [rest_of_error herr, ← hs] at hline
  have hload := load_eq hline
  rw [hs] at hload hline
  obtain ⟨hkept, hraised, -⟩ := concludes_pair (endsIn_apart p (s p).outcome (s p.other).stopOutcome)
  obtain ⟨-, hstopped⟩ := source_apart p (s p).outcome (s p.other).stopOutcome
  rw [herr] at hstopped hraised
  rw [hload]
  refine ⟨hraised err rfl, (hkept p.other).trans hstopped, ?_, rfl, fun hcleanup => ?_⟩
  -- the other source is cancelled when loading goes on after the failure
  · refine @Loader.mem_log s [completion s p] _ _ _ _ ?_
    rw [show [completion s p].map Prod.snd = [.ends p (s p).outcome] from rfl, seen_cancelled herr]
    exact List.mem_singleton_self _
  -- and it comes to its end after its cleanup
  · rw [List.append_assoc]
    refine Loader.mem_log ?_
    rw [seen_cleanedUp herr hcleanup]
    exact List.mem_singleton_self _

/-- Two values are what a form is built from, whichever comes first. -/
theorem built_of_resolved {definition values : Source} {d v : Value}
    (hd : definition.outcome = .resolved d) (hv : values.outcome = .resolved v) :
    (load definition values).loader.stage = .built (build d v).1 (build d v).2 := by
  have hnone : ∀ q, (sources definition values q).outcome.error? = none := by
    intro q
    cases q with
    | definition => exact SourceEnd.error?_eq_none.mpr ⟨d, hd⟩
    | values => exact SourceEnd.error?_eq_none.mpr ⟨v, hv⟩
  have huncut := load_uncut (show sources definition values = _ from rfl) (.inr (hnone _))
  obtain ⟨d', v', hd', hv', hstage⟩ := huncut.built (by rw [hnone, hnone]; rfl)
  obtain rfl : d = d' := SourceEnd.resolved.inj (hd.symm.trans hd')
  obtain rfl : v = v' := SourceEnd.resolved.inj (hv.symm.trans hv')
  exact hstage

/-- When a source fails, one of them fails first. -/
theorem exists_failsFirst (h : ∃ p, (s p).outcome.error? ≠ none) : ∃ p err, FailsFirst s p err := by
  obtain ⟨p, hp⟩ := h
  cases herr : (s (first s)).outcome.error? with
  | some err => exact ⟨first s, err, herr, .inr rfl⟩
  | none =>
    -- the first source has not failed, so it is the other one
    obtain rfl : p = (first s).other := by
      refine (Part.eq_or_eq_other (first s) p).resolve_left fun hsame => ?_
      rw [hsame] at hp
      exact hp herr
    obtain ⟨err, hother⟩ := Option.ne_none_iff_exists'.mp hp
    exact ⟨_, err, hother, .inl ((first s).other_other.symm ▸ herr)⟩

/-- What comes of a source that fails first: the other one is cut short when it is still running, and
otherwise it has ended by itself. -/
theorem load_of_failsFirst {definition values : Source} (hs : sources definition values = s)
    (h : FailsFirst s p err) :
    (load definition values).loader.stage = .raised err ∧
      ((s p).endsAt < (s p.other).endsAt → CutShort s p (load definition values)) ∧
      ((s p.other).endsAt ≤ (s p).endsAt → (load definition values).endsAt = (s p).endsAt ∧
        (load definition values).loader.source p.other = .ended (s p.other).outcome) := by
  obtain ⟨hp, hother⟩ := h
  have hfirst := first_endsAt_le s
  by_cases hsame : first s = p
  · subst hsame
    rcases Nat.lt_or_ge (s (first s)).endsAt (s (first s).other).endsAt with hlt | hle
    · obtain ⟨hraised, hcut⟩ := load_cutShort hs hlt hp
      exact ⟨hraised, fun _ => hcut, fun hle => absurd hlt (Nat.not_lt.mpr hle)⟩
    · have huncut := load_uncut hs (.inl hle)
      refine ⟨huncut.raised err (by rw [hp]; rfl), fun hlt => absurd hlt (Nat.not_lt.mpr hle),
        fun _ => ⟨?_, huncut.ended _⟩⟩
      exact huncut.endsAt.trans (Nat.le_antisymm hle hfirst)
  -- the first source has given a value, so it is the other one that fails
  · obtain rfl : p = (first s).other :=
      (Part.eq_or_eq_other (first s) p).resolve_left (Ne.symm hsame)
    have hnone := hother.resolve_right hsame
    rw [(first s).other_other] at hnone ⊢
    have huncut := load_uncut hs (.inr hnone)
    refine ⟨huncut.raised err (by rw [hnone]; exact hp), fun hlt => ?_,
      fun _ => ⟨huncut.endsAt, huncut.ended _⟩⟩
    exact absurd hfirst (Nat.not_le.mpr hlt)

end Loading

open Loading in
/-- **Loading.** In whatever order the sources end and loading goes on, where everything is fits how
the sources have ended, and loading comes to its end once both have. So with sources that end at
given times, a form is built exactly if both give a value, and then from these values. Otherwise one
of them fails first, and its error is raised. The other one, if it is still running, is cancelled at
that moment and has come to its end, with its cleanup, when loading ends; if not, it has ended by
itself. -/
theorem load_concludes (definition values : Source) :
    let s := sources definition values
    let loading := load definition values
    (∀ hs, Loader.Accounts (Loader.endsIn hs) (Loader.run hs) ∧
      ((∀ p, ((Loader.run hs).source p).isOver = true) →
        (Loader.run (hs ++ [.resumes, .resumes])).stage.isFinal = true)) ∧
    (∀ d v, definition.outcome = .resolved d → values.outcome = .resolved v →
      loading.loader.stage = .built (build d v).1 (build d v).2) ∧
    ((∃ p, (s p).outcome.error? ≠ none) → ∃ p err, FailsFirst s p err) ∧
    ∀ p err, FailsFirst s p err → loading.loader.stage = .raised err ∧
      ((s p).endsAt < (s p.other).endsAt → loading.CutShort s p) ∧
      ((s p.other).endsAt ≤ (s p).endsAt → loading.endsAt = (s p).endsAt ∧
        loading.loader.source p.other = .ended (s p.other).outcome) := by
  intro s loading
  refine ⟨fun hs => ⟨Loader.accounts_run hs, fun hall => ?_⟩, fun d v => built_of_resolved,
    exists_failsFirst, fun p err => load_of_failsFirst rfl⟩
  rw [Loader.run_append]
  exact (Loader.accounts_run hs).isFinal hall

end DynamicForm
