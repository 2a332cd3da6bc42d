import DynamicForm.Text.Parts

/-!
# Cutting texts

Paths are cut at slashes, slugs at everything that is not kept, and addresses at the first sign that
ends a part of them. All of it is cutting a list of characters, everywhere or once.

- `parts_append_cons`, `parts_of_free`, `parts_free_append`: where a text is cut, and where not.
- `flatten_parts`: the parts hold all other characters, in order.
- `mem_parts`: a part is no longer than the text, and it is the text if it is as long.
- `cutAt_of_free`, `cutAt_free_append`, `cutAt_cases`: how a text is cut once.
-/

namespace DynamicForm.Text

variable {stop : Char → Bool} {c : Char} {cs xs ys p : List Char}

/-! ## Everywhere

Cutting gives one part more than there are cuts, so there is always a first one, and empty parts
where two cuts follow each other. -/

/-- The recursion is that of a function of the library. -/
theorem parts_eq_splitOnP (stop : Char → Bool) (cs : List Char) :
    parts stop cs = cs.splitOnP stop := by
  induction cs with
  | nil => rfl
  | cons c rest ih =>
    rw [parts, List.splitOnP_cons_eq_if_modifyHead, ih]
    split
    · rfl
    · cases hrest : rest.splitOnP stop with
      | nil => exact absurd hrest (List.splitOnP_ne_nil stop rest)
      | cons part others => rfl

theorem parts_ne_nil (stop : Char → Bool) (cs : List Char) : parts stop cs ≠ [] := by
  rw [parts_eq_splitOnP]
  exact List.splitOnP_ne_nil stop cs

/-- A cut parts what stands before it from what comes after. -/
theorem parts_append_cons (xs ys : List Char) (h : stop c = true) :
    parts stop (xs ++ c :: ys) = parts stop xs ++ parts stop ys := by
  simp only [parts_eq_splitOnP]
  exact List.splitOnP_append_cons xs ys h

/-- Without a character to cut at, there is one part. -/
theorem parts_of_free (h : ∀ c ∈ cs, stop c = false) : parts stop cs = [cs] := by
  rw [parts_eq_splitOnP]
  exact List.splitOnP_eq_singleton h

/-- What stands before the first cut belongs to the first part. -/
theorem parts_free_append (h : ∀ c ∈ xs, stop c = false) :
    parts stop (xs ++ ys) = (parts stop ys).modifyHead (xs ++ ·) := by
  simp only [parts_eq_splitOnP]
  induction xs with
  | nil =>
    rw [List.nil_append]
    cases ys.splitOnP stop <;> rfl
  | cons c rest ih =>
    obtain ⟨hc, hrest⟩ := List.forall_mem_cons.mp h
    rw [List.cons_append, List.splitOnP_cons_eq_if_modifyHead, if_neg (Bool.eq_false_iff.mp hc),
      ih hrest]
    cases ys.splitOnP stop <;> rfl

/-- Nothing is lost but the characters at which the text is cut. -/
theorem flatten_parts (stop : Char → Bool) (cs : List Char) :
    (parts stop cs).flatten = cs.filter fun c => !stop c := by
  induction cs with
  | nil => rfl
  | cons c rest ih =>
    rw [parts_eq_splitOnP] at ih ⊢
    rw [List.splitOnP_cons_eq_if_modifyHead, List.filter_cons]
    cases hc : stop c with
    | true => exact ih
    | false =>
      rw [← ih]
      cases hrest : rest.splitOnP stop with
      | nil => exact absurd hrest (List.splitOnP_ne_nil stop rest)
      | cons part others => rfl

/-- A part has characters of the text at which it is not cut. It is no longer than the text, and it
is the text if it is as long. -/
theorem mem_parts (h : p ∈ parts stop cs) :
    (∀ c ∈ p, c ∈ cs ∧ stop c = false) ∧ p.length ≤ cs.length ∧ (cs.length ≤ p.length → p = cs) := by
  induction cs generalizing p with
  | nil =>
    obtain rfl := List.mem_singleton.mp h
    exact ⟨List.forall_mem_nil _, Nat.le_refl _, fun _ => rfl⟩
  | cons c rest ih =>
    -- a part of the rest is shorter than the text
    have hshorter : p ∈ parts stop rest → (∀ d ∈ p, d ∈ c :: rest ∧ stop d = false) ∧
        p.length ≤ (c :: rest).length ∧ ((c :: rest).length ≤ p.length → p = c :: rest) := by
      intro hp
      obtain ⟨hmem, hle, -⟩ := ih hp
      refine ⟨fun d hd => ⟨List.mem_cons_of_mem c (hmem d hd).1, (hmem d hd).2⟩,
        Nat.le_succ_of_le hle, fun hlong => ?_⟩
      exact absurd (Nat.le_trans hlong hle) (Nat.not_succ_le_self _)
    unfold parts at h
    split at h
    · rcases List.mem_cons.mp h with rfl | hp
      · exact ⟨List.forall_mem_nil _, Nat.zero_le _, fun hlong => absurd hlong (by simp)⟩
      · exact hshorter hp
    · next hc =>
      split at h
      · next hnil => exact absurd hnil (parts_ne_nil stop rest)
      · next part others hparts =>
        rcases List.mem_cons.mp h with rfl | hp
        · obtain ⟨hmem, hle, heq⟩ := ih (p := part) (hparts ▸ List.mem_cons_self)
          refine ⟨List.forall_mem_cons.mpr ⟨⟨List.mem_cons_self, Bool.eq_false_iff.mpr hc⟩,
            fun d hd => ⟨List.mem_cons_of_mem c (hmem d hd).1, (hmem d hd).2⟩⟩,
            Nat.succ_le_succ hle, fun hlong => ?_⟩
          rw [heq (Nat.le_of_succ_le_succ hlong)]
        · exact hshorter (hparts ▸ List.mem_cons_of_mem part hp)

/-! ## Once

The cut goes through the first character that is looked for. What comes after it is left as it is.
-/

theorem cutAt_free_append (h : ∀ c ∈ xs, stop c = false) :
    cutAt stop (xs ++ ys) = (xs ++ (cutAt stop ys).1, (cutAt stop ys).2) := by
  induction xs with
  | nil => rfl
  | cons c rest ih =>
    obtain ⟨hc, hrest⟩ := List.forall_mem_cons.mp h
    rw [List.cons_append, cutAt, if_neg (Bool.eq_false_iff.mp hc), ih hrest]
    rfl

theorem cutAt_of_free (h : ∀ c ∈ cs, stop c = false) : cutAt stop cs = (cs, none) := by
  have happend : cutAt stop (cs ++ []) = (cs ++ [], none) := cutAt_free_append h
  rwa [List.append_nil] at happend

/-- A text is cut nowhere, or at the first character to cut at. -/
theorem cutAt_cases (stop : Char → Bool) (cs : List Char) :
    (cutAt stop cs = (cs, none) ∧ ∀ c ∈ cs, stop c = false) ∨
      ∃ xs c ys, cs = xs ++ c :: ys ∧ stop c = true ∧ (∀ c ∈ xs, stop c = false) ∧
        cutAt stop cs = (xs, some ys) := by
  induction cs with
  | nil => exact .inl ⟨rfl, List.forall_mem_nil _⟩
  | cons c rest ih =>
    unfold cutAt
    cases hc : stop c with
    | true => exact .inr ⟨[], c, rest, rfl, hc, List.forall_mem_nil _, rfl⟩
    | false =>
      rcases ih with ⟨hcut, hfree⟩ | ⟨xs, d, ys, rfl, hd, hfree, hcut⟩
      · exact .inl ⟨by rw [hcut]; rfl, List.forall_mem_cons.mpr ⟨hc, hfree⟩⟩
      · exact .inr ⟨c :: xs, d, ys, rfl, hd, List.forall_mem_cons.mpr ⟨hc, hfree⟩, by rw [hcut]; rfl⟩

theorem free_of_cutAt (h : (cutAt stop cs).2 = none) :
    cutAt stop cs = (cs, none) ∧ ∀ c ∈ cs, stop c = false := by
  rcases cutAt_cases stop cs with hfree | ⟨_, _, _, -, -, -, hcut⟩
  · exact hfree
  · rw [hcut] at h
    cases h

end DynamicForm.Text
