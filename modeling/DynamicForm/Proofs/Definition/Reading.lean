import DynamicForm.Definition.Reader

/-!
# What reading makes of a payload

A record is read attribute by attribute, and the parts that are read make up the result. So a reading
succeeds exactly if that of every part does.

- `Checked.seq_eq_ok`, `Checked.map_eq_ok` and `Checked.under_eq_ok` take a reading apart.
- `Read.assigned_eq_ok` says what a single attribute that has been assigned may be.
-/

namespace DynamicForm

namespace Checked

variable {α β : Type} {a : α} {b : β} {c : Checked α}

/-- Two parts that are read one after the other both have to be there. Faults of both are collected,
so that a fault in the first does not spare the second from being read; for what is read in the end
this makes no difference. -/
theorem seq_eq_ok {f : Checked (α → β)} :
    f <*> c = .ok b ↔ ∃ g x, f = .ok g ∧ c = .ok x ∧ g x = b := by
  change Checked.apply f c = .ok b ↔ _
  cases f <;> cases c <;> simp [Checked.apply]

/-- What is made of a part succeeds where the part does. -/
theorem map_eq_ok {g : α → β} : g <$> c = .ok b ↔ ∃ x, c = .ok x ∧ g x = b := by
  change Checked.map g c = .ok b ↔ _
  cases c <;> simp [Checked.map]

/-- The path at which a part stands shows in faults only. -/
theorem under_eq_ok {step : PathStep} : c.under step = .ok a ↔ c = .ok a := by
  cases c <;> simp [Checked.under]

end Checked

namespace Read

theorem text_eq_ok {v : Value} {s : String} : scalar text v = .ok s ↔ v = .text s := by
  cases v <;> simp [scalar, text, Checked.ofExcept, Checked.fail]

/-- An optional text may be left empty, which is not to leave it out. -/
theorem optional_text_eq_ok {v : Value} {s : Option String} :
    optional (scalar text) v = .ok s ↔ v = s.elim .null .text := by
  cases v <;> cases s <;>
    simp [optional, scalar, text, Checked.ofExcept, Checked.fail, Checked.map]

/-- An attribute that has been assigned holds what has been read. -/
theorem assigned_eq_ok {α β : Type} {name : String} {read : Reader β} {v : Value} {store : β → α}
    {a : α} : assigned name read v store = .ok a ↔ ∃ b, read v = .ok b ∧ store b = a :=
  Checked.under_eq_ok.trans Checked.map_eq_ok

/-- Assigning an attribute that a record does not have is of no consequence. -/
theorem unknown_eq_ok {α : Type} {name : String} {unchanged a : α}
    (h : unknown name unchanged = .ok a) : a = unchanged := by
  unfold unknown at h
  split at h
  · exact (Checked.ok.inj h).symm
  · cases h

end Read

end DynamicForm
