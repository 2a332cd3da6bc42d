import DynamicForm.Date.Reader

/-!
# Amounts that are too long

A text that spells no date is a text that spells no date, and reading it says so. The one thing that
interrupts the reading is an amount of hours or minutes that has so many digits that its fraction
cannot be taken.

The reader of dates goes through tokens and decides at each of them what it may be: a number by
itself, one before a colon, a unit, the name of a month, a mark of the half of the day or an offset.
Most of this cannot be interrupted at all, because nothing is calculated. The fraction of an amount
is taken in two places, when an amount of hours or minutes is not a whole number. So the proofs go
along the functions of the reader, and the hypothesis is used in these two places only.

- `Answers` says of a reading that it is not interrupted.
- `Reading.token_answers`: reading one token is not interrupted unless the token, or one after it,
  is an amount that is too long.
- `long_of_read`: nor is the reading of a text.
-/

namespace DynamicForm.Date

/-- The reading succeeds, or the text is unreadable. -/
def Answers {α : Type} (x : Except Failure α) : Prop := x ≠ .error .tooLong

/-- The token is an amount with more digits before the point than calculations keep. -/
def IsLong (t : Token) : Prop := ∃ a, amount? t = some a ∧ Nat.pow 10 Amount.precision ≤ a.whole

namespace Answers

variable {α β : Type} {x : Except Failure α}

theorem ok (a : α) : Answers (.ok a) := nofun

theorem unreadable : Answers (.error .unreadable : Except Failure α) := nofun

/-- A member that is not there makes the text unreadable. -/
theorem orUnreadable (o : Option α) : Answers (orUnreadable o) := by
  cases o with
  | none => exact unreadable
  | some a => exact ok a

theorem bind {f : α → Except Failure β} (hx : Answers x)
    (hf : ∀ a, x = .ok a → Answers (f a)) : Answers (x >>= f) := by
  cases x with
  | error e => exact fun h => hx (congrArg _ (Except.error.inj h))
  | ok a => exact hf a rfl

theorem map {f : α → β} (hx : Answers x) : Answers (x.map f) := by
  cases x with
  | error e => exact fun h => hx (congrArg _ (Except.error.inj h))
  | ok a => exact ok (f a)

theorem ite {p : Prop} [Decidable p] {y : Except Failure α} (hx : Answers x) (hy : Answers y) :
    Answers (if p then x else y) := by
  split
  · exact hx
  · exact hy

end Answers

theorem eq_some_of_orUnreadable {α : Type} {o : Option α} {a : α} (h : orUnreadable o = .ok a) :
    o = some a := by
  cases o with
  | none => cases h
  | some b => exact congrArg some (Except.ok.inj h)

/-- The fraction of an amount that is not too long can be taken. -/
theorem Amount.sixtieths?_answers {a : Amount} (h : a.whole < Nat.pow 10 precision) :
    Answers a.sixtieths? := by
  rw [sixtieths?, if_neg (Nat.not_le.mpr h)]
  exact Answers.ok _

namespace Reading

variable (r : Reading)

theorem withMembers_answers (m : Option Members) (used : Nat) : Answers (r.withMembers m used) :=
  (Answers.orUnreadable m).map

/-- An amount of minutes has seconds as its fraction. -/
theorem withMinutes_answers {a : Amount} (h : a.whole < Nat.pow 10 Amount.precision) :
    Answers (r.withMinutes a) :=
  (Amount.sixtieths?_answers h).map

/-- An amount with a unit behind it: hours have minutes, minutes have seconds, and seconds are cut
off. -/
theorem withUnit_answers {a : Amount} (h : a.whole < Nat.pow 10 Amount.precision) (unit : Nat) :
    Answers (r.withUnit a unit) := by
  unfold withUnit
  split
  · exact (Amount.sixtieths?_answers h).map
  · exact r.withMinutes_answers h
  · exact Answers.ok _
  · exact Answers.ok _

/-- A time without separators is cut into pairs of digits. -/
theorem compactTime_answers (t : Token) : Answers (r.compactTime t) := by
  refine (Answers.orUnreadable _).bind fun hour _ => .ite ?_ (.ok _)
  exact (Answers.orUnreadable _).bind fun minute _ => .ok _

/-- Six digits are a date or a time, and neither is calculated. -/
theorem sixDigits_answers (t : Token) : Answers (r.sixDigits t) := by
  refine .ite (r.withMembers_answers _ _) ?_
  refine (Answers.orUnreadable _).bind fun hour _ => ?_
  refine (Answers.orUnreadable _).bind fun minute _ => ?_
  exact (Answers.orUnreadable _).bind fun seconds _ => .ok _

theorem compactDate_answers (t : Token) : Answers (r.compactDate t) := by
  refine (Answers.orUnreadable _).bind fun m₁ _ => ?_
  refine (Answers.orUnreadable _).bind fun m₂ _ => ?_
  refine (Answers.orUnreadable _).bind fun m₃ _ => .ite ?_ (.ok _)
  refine (Answers.orUnreadable _).bind fun hour _ => ?_
  refine (Answers.orUnreadable _).bind fun minute _ => .ite ?_ (.ok _)
  exact (Answers.orUnreadable _).bind fun second _ => .ok _

/-- A date with separators has three members at most. -/
theorem separatedDate_answers (t sep : Token) (rest : List Token) :
    Answers (r.separatedDate t sep rest) := by
  unfold separatedDate
  split
  · exact r.withMembers_answers _ _
  · refine .ite (r.withMembers_answers _ _) ?_
    refine (Answers.orUnreadable _).bind fun m₁ _ => ?_
    refine (Answers.orUnreadable _).bind fun m₂ _ => ?_
    split
    · refine .ite ((Answers.orUnreadable _).bind fun third _ => ?_) (.ok _)
      split
      · exact r.withMembers_answers _ _
      · exact r.withMembers_answers _ _
    · exact .ok _

/-- A number by itself may be a day, a month or a year. -/
theorem loneNumber_answers (a : Amount) (rest : List Token) : Answers (r.loneNumber a rest) := by
  unfold loneNumber
  split
  · exact .ok _
  · exact r.withMembers_answers _ _

/-- A number that could be a day is kept as one, if there is none yet. -/
theorem ifDay_answers (a : Amount) : Answers (number.ifDay r a) := by
  unfold number.ifDay
  split
  · exact r.withMembers_answers _ _
  · exact .unreadable

/-- The minutes after a colon are an amount of their own. -/
theorem clockTime_answers (a : Amount) {minutes : Token} (h : ¬IsLong minutes)
    (rest : List Token) : Answers (r.clockTime a minutes rest) := by
  refine (Answers.orUnreadable _).bind fun m hm => ?_
  have hlt : m.whole < Nat.pow 10 Amount.precision :=
    Nat.not_le.mp fun hle => h ⟨m, eq_some_of_orUnreadable hm, hle⟩
  refine (withMinutes_answers _ hlt).bind fun r' _ => ?_
  split
  · exact (Answers.orUnreadable _).bind fun seconds _ => .ok _
  · exact .ok _

/-- **Numbers.** -/
theorem number_answers {a : Amount} {t : Token} (ha : amount? t = some a) (behind : List Token)
    {rest : List Token} (h : ∀ u ∈ t :: rest, ¬IsLong u) :
    Answers (r.number a t behind rest) := by
  obtain ⟨ht, hrest⟩ := List.forall_mem_cons.mp h
  have hlt : a.whole < Nat.pow 10 Amount.precision := Nat.not_le.mp fun hle => ht ⟨a, ha, hle⟩
  refine .ite (r.compactTime_answers t) (.ite (r.sixDigits_answers t)
    (.ite (r.compactDate_answers t) ?_))
  split
  · exact (r.withUnit_answers hlt _).map
  · split
    · exact r.clockTime_answers a (hrest _ (List.mem_cons_of_mem _ List.mem_cons_self)) _
    · split
      · exact r.loneNumber_answers a rest
      · refine .ite (r.separatedDate_answers _ _ _) (.ite (r.loneNumber_answers a rest) ?_)
        split
        · exact .ite (.ok _) (r.ifDay_answers a)
        · exact r.ifDay_answers a

/-- The name of a month may be followed by a day and a year. -/
theorem monthName_answers (today : Date) (month : Nat) (rest : List Token) :
    Answers (monthName today r month rest) := by
  refine (Answers.orUnreadable _).bind fun m _ => ?_
  split
  · refine .ite ((Answers.orUnreadable _).bind fun second _ => ?_) ?_
    · refine (Answers.orUnreadable _).bind fun m' _ => ?_
      split
      · exact .ite ((Answers.orUnreadable _).bind fun third _ => r.withMembers_answers _ _) (.ok _)
      · exact .ok _
    · split
      · refine .ite (.ite ?_ (.ok _)) (.ok _)
        exact (Answers.orUnreadable _).bind fun n _ => r.withMembers_answers _ _
      · exact .ok _
  · exact .ok _

theorem halfDayMark_answers (half : Nat) : Answers (r.halfDayMark half) :=
  (Answers.orUnreadable _).bind fun _ _ => .ite (.ok _) .unreadable

/-- An offset is read from digits, in one of three forms. -/
theorem zoneOffset_answers (t : Token) (rest : List Token) : Answers (r.zoneOffset t rest) := by
  refine (Answers.orUnreadable _).bind fun digits _ => ?_
  refine (Answers.orUnreadable _).bind fun offset _ => ?_
  dsimp only
  split
  · exact .ite (.ok _) (.ok _)
  · exact .ok _

/-- **Every token** is read without interruption when neither it nor a later one is too long. -/
theorem token_answers (today : Date) (t : Token) (behind : List Token) {rest : List Token}
    (h : ∀ u ∈ t :: rest, ¬IsLong u) : Answers (r.token today t behind rest) := by
  unfold token
  split
  · next a ha => exact r.number_answers ha behind h
  · refine .ite .unreadable ?_
    split
    · exact .ok _
    · split
      · exact r.monthName_answers today _ rest
      · split
        · exact r.halfDayMark_answers _
        · exact .ite (.ok _) (.ite (r.zoneOffset_answers t rest) (.ite (.ok _) .unreadable))

/-- So are all of them, by induction on the tokens that are left. -/
theorem tokens_answers (today : Date) {used : Nat} {behind ts : List Token}
    (h : ∀ u ∈ ts, ¬IsLong u) : Answers (tokens today used behind r ts) := by
  induction ts generalizing used behind r with
  | nil => cases used <;> exact .ok _
  | cons t rest ih =>
    have hrest : ∀ u ∈ rest, ¬IsLong u := fun u hu => h u (List.mem_cons_of_mem t hu)
    cases used with
    | succ used => exact ih r hrest
    | zero =>
      unfold tokens
      split
      · next r' used hr' => exact ih r' hrest
      · next e he =>
        intro heq
        rw [Except.error.inj heq] at he
        exact r.token_answers today t behind h he

end Reading

/-- **Long amounts.** Reading a text is interrupted only when one of its tokens is an amount with
more digits before the point than calculations keep. -/
theorem long_of_read {today : Date} {s : String} {e : Fault} (h : read today s = .error e) :
    e = .quotientTooLong ∧ ∃ t ∈ tokens s.toList, IsLong t := by
  unfold read at h
  split at h
  · cases h
  · split at h
    · cases h
    · cases h
    · next hlong =>
      obtain rfl := Except.error.inj h
      refine ⟨rfl, Classical.byContradiction fun hno => ?_⟩
      exact Reading.tokens_answers {} today (fun t ht h => hno ⟨t, ht, h⟩) hlong

end DynamicForm.Date
