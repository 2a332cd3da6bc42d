import DynamicForm.Proofs.Text.Parts
import DynamicForm.Proofs.Web.Escape

/-!
# Paths

A path is taken apart at its slashes, and segments of dots are resolved: what is left are the
segments before them up to some point, and then segments that come after.

- `Url.IsDots` and `Url.IsWord` say of a segment that it is one of dots, and that there is nothing
  special in it.
- `Url.resolveDots_cases`: what is left when dots are resolved.
- `Url.segments_plainPath`, `Url.segments_escape`: the segments of a path in its plain form, and of
  an escaped one.
-/

namespace DynamicForm.Url

/-- A segment of dots. -/
def IsDots (s : List Char) : Prop := s = ['.'] ∨ s = ['.', '.']

instance (s : List Char) : Decidable (IsDots s) :=
  inferInstanceAs (Decidable (s = ['.'] ∨ s = ['.', '.']))

/-- A segment in which there is nothing to escape and nothing that has a meaning. -/
def IsWord (s : List Char) : Prop := (∀ c ∈ s, isPathSafe c = true ∧ c ≠ '/' ∧ c ≠ '%') ∧ ¬IsDots s

instance (s : List Char) : Decidable (IsWord s) :=
  @instDecidableAnd _ _ (List.decidableBAll _ s) inferInstance

/-- Segments behind each other, each with a slash before it. -/
def slashed (segs : List (List Char)) : List Char := segs.flatMap ('/' :: ·)

variable {s cs : List Char} {kept rest segs : List (List Char)}

/-! ## Dots -/

theorem resolveDots_cons (kept rest : List (List Char)) (h : ¬IsDots s) :
    resolveDots kept (s :: rest) = resolveDots (s :: kept) rest := by
  rw [resolveDots]
  · exact fun hs => h (.inl hs)
  · exact fun hs => h (.inr hs)

theorem resolveDots_append {front : List (List Char)} (h : ∀ s ∈ front, ¬IsDots s)
    (kept rest : List (List Char)) :
    resolveDots kept (front ++ rest) = resolveDots (front.reverse ++ kept) rest := by
  induction front generalizing kept with
  | nil => rfl
  | cons s front ih =>
    obtain ⟨hs, hfront⟩ := List.forall_mem_cons.mp h
    rw [List.cons_append, resolveDots_cons _ _ hs, ih hfront, List.reverse_cons, List.append_assoc,
      List.singleton_append]

/-- What is left of segments without dots. -/
theorem resolveDots_eq_self (h : ∀ s ∈ segs, ¬IsDots s) : resolveDots [] segs = segs := by
  have happend := resolveDots_append h [] []
  rw [List.append_nil, List.append_nil] at happend
  rw [happend, resolveDots, List.reverse_reverse]

/-- **Dots.** What is left are segments that have been kept, up to some point, and segments to come
that are no dots. -/
theorem resolveDots_cases (kept rest : List (List Char)) :
    ∃ before later, resolveDots kept rest = before ++ later ∧ before <+: kept.reverse ∧
      ∀ s ∈ later, s ∈ rest ∧ ¬IsDots s := by
  induction rest generalizing kept with
  | nil => exact ⟨kept.reverse, [], (List.append_nil _).symm, List.prefix_rfl, List.forall_mem_nil _⟩
  | cons s rest ih =>
    have hmore : ∀ {later : List (List Char)}, (∀ t ∈ later, t ∈ rest ∧ ¬IsDots t) →
        ∀ t ∈ later, t ∈ s :: rest ∧ ¬IsDots t :=
      fun h t ht => ⟨List.mem_cons_of_mem s (h t ht).1, (h t ht).2⟩
    -- one dot is left out, two dots take away what came before, and anything else is kept
    by_cases hone : s = ['.']
    · subst hone
      obtain ⟨before, later, heq, hbefore, hlater⟩ := ih kept
      exact ⟨before, later, heq, hbefore, hmore hlater⟩
    by_cases htwo : s = ['.', '.']
    · subst htwo
      rw [resolveDots]
      split
      · obtain ⟨before, later, heq, hbefore, hlater⟩ := ih kept
        exact ⟨before, later, heq, hbefore, hmore hlater⟩
      · obtain ⟨before, later, heq, hbefore, hlater⟩ := ih kept.tail
        have htail : kept.tail.reverse <+: kept.reverse := by
          rw [List.reverse_prefix]
          exact List.tail_suffix kept
        exact ⟨before, later, heq, hbefore.trans htail, hmore hlater⟩
    have hs : ¬IsDots s := not_or.mpr ⟨hone, htwo⟩
    rw [resolveDots_cons _ _ hs]
    obtain ⟨before, later, heq, hbefore, hlater⟩ := ih (s :: kept)
    rw [List.reverse_cons, List.prefix_concat_iff] at hbefore
    rcases hbefore with rfl | hbefore
    · refine ⟨kept.reverse, s :: later, ?_, List.prefix_rfl,
        List.forall_mem_cons.mpr ⟨⟨List.mem_cons_self, hs⟩, hmore hlater⟩⟩
      rw [heq, List.append_assoc, List.singleton_append]
    · exact ⟨before, later, heq, hbefore, hmore hlater⟩

theorem mem_of_mem_resolveDots {segs : List (List Char)} (h : s ∈ resolveDots [] segs) :
    s ∈ segs := by
  obtain ⟨before, later, heq, hbefore, hlater⟩ := resolveDots_cases [] segs
  rw [heq, List.prefix_nil.mp hbefore, List.nil_append] at h
  exact (hlater s h).1

/-- A segment that stands right after all those that come first is one of those to come. -/
theorem mem_of_resolveDots_eq {front after : List (List Char)} (hfront : ∀ s ∈ front, ¬IsDots s)
    (h : resolveDots [] (front ++ rest) = front ++ s :: after) : s ∈ rest ∧ ¬IsDots s := by
  obtain ⟨before, later, heq, hbefore, hlater⟩ := resolveDots_cases (front.reverse ++ []) rest
  rw [List.append_nil, List.reverse_reverse] at hbefore
  obtain ⟨more, hmore⟩ := hbefore
  rw [resolveDots_append hfront, heq, ← hmore, List.append_assoc] at h
  have hs : s ∈ later := by
    rw [List.append_cancel_left h]
    exact List.mem_append_right more List.mem_cons_self
  exact hlater s hs

/-- A first segment that is empty is kept. -/
theorem resolveDots_root (kept rest : List (List Char)) :
    ∃ out, resolveDots (kept ++ [[]]) rest = [] :: out := by
  induction rest generalizing kept with
  | nil => exact ⟨kept.reverse, by simp [resolveDots]⟩
  | cons s rest ih =>
    by_cases hone : s = ['.']
    · subst hone
      exact ih kept
    by_cases htwo : s = ['.', '.']
    · subst htwo
      rw [resolveDots]
      -- two dots do not take away the empty segment at the root
      cases kept with
      | nil => exact ih []
      | cons part kept =>
        rw [if_neg (by simp)]
        exact ih kept
    have hs : ¬IsDots s := not_or.mpr ⟨hone, htwo⟩
    rw [resolveDots_cons _ _ hs]
    exact ih (s :: kept)

/-! ## Segments

Slashes are never escaped and no escape has one in it, so escaping a path is escaping its segments.
-/

/-- Segments without slashes are those of the text they are joined to. -/
theorem segments_intercalate {segs : List (List Char)} (hne : segs ≠ [])
    (h : ∀ s ∈ segs, '/' ∉ s) : segments (['/'].intercalate segs) = segs := by
  rw [segments, Text.parts_eq_splitOnP]
  exact List.splitOn_intercalate '/' h hne

/-- The segments of a path are those of the text, with the dots resolved. -/
theorem segments_plainPath (h : cs.head? = some '/') :
    segments (plainPath cs) = resolveDots [] (segments cs) := by
  obtain ⟨tail, rfl⟩ := List.head?_eq_some_iff.mp h
  have hslash : segments ('/' :: tail) = [] :: segments tail := rfl
  refine segments_intercalate ?_ fun s hs hmem => ?_
  · obtain ⟨out, hout⟩ := resolveDots_root [] (segments tail)
    rw [hslash, resolveDots_cons _ _ (by simp [IsDots])]
    exact hout ▸ List.cons_ne_nil _ _
  · exact absurd ((Text.mem_parts (mem_of_mem_resolveDots hs)).1 '/' hmem).2 (by decide)

theorem segments_escape (cs : List Char) :
    segments (escape isPathSafe cs) = (segments cs).map (escape isPathSafe) := by
  induction cs with
  | nil => rfl
  | cons c rest ih =>
    rw [escape_cons]
    by_cases hc : c = '/'
    · subst hc
      change segments ('/' :: escape isPathSafe rest) = _
      change [] :: segments (escape isPathSafe rest) = _
      rw [ih]
      rfl
    -- no slash comes of escaping another character
    · have hpiece : ∀ d ∈ (if isPathSafe c then [c] else escapeChar c), (d == '/') = false := by
        intro d hd
        split at hd
        · rw [List.mem_singleton.mp hd]
          exact beq_eq_false_iff_ne.mpr hc
        · exact beq_eq_false_iff_ne.mpr (mem_escapeChar hd).2
      have hone : ∀ d ∈ [c], (d == '/') = false :=
        fun d hd => beq_eq_false_iff_ne.mpr (List.mem_singleton.mp hd ▸ hc)
      have hparts : segments (c :: rest) = (segments rest).modifyHead ([c] ++ ·) :=
        Text.parts_free_append hone
      rw [segments, Text.parts_free_append hpiece, ← segments, ih, hparts]
      cases segments rest with
      | nil => rfl
      | cons part others =>
        simp only [List.map_cons, List.modifyHead_cons, List.singleton_append, escape_cons]

/-! ## Words

The words around a reference are safe, not empty and no dots. Nothing that is done to a path changes
them. -/

theorem IsWord.escape_eq (h : IsWord s) : escape isPathSafe s = s :=
  escape_eq_self fun c hc => (h.1 c hc).1

theorem isPathSafe_of_mem_slashed (h : ∀ s ∈ segs, IsWord s) {c : Char} (hc : c ∈ slashed segs) :
    isPathSafe c = true := by
  obtain ⟨s, hs, hc⟩ := List.mem_flatMap.mp hc
  rcases List.mem_cons.mp hc with rfl | hc
  · decide
  · exact ((h s hs).1 c hc).1

theorem slashed_free (h : ∀ s ∈ segs, IsWord s) {stop : Char} (hstop : stop = '#' ∨ stop = '?') :
    ∀ c ∈ slashed segs, (c == stop) = false :=
  fun _ hc => beq_eq_false_iff_ne.mpr (ne_of_isPathSafe (isPathSafe_of_mem_slashed h hc) hstop)

/-- Slashes part the segments. -/
theorem segments_slashed_append (h : ∀ s ∈ segs, IsWord s) (cs : List Char) :
    segments (slashed segs ++ '/' :: cs) = [] :: segs ++ segments cs := by
  induction segs with
  | nil => rfl
  | cons s segs ih =>
    obtain ⟨hs, hsegs⟩ := List.forall_mem_cons.mp h
    have hfree : ∀ c ∈ s, (c == '/') = false :=
      fun c hc => beq_eq_false_iff_ne.mpr (hs.1 c hc).2.1
    have hhead : slashed (s :: segs) ++ '/' :: cs = '/' :: (s ++ (slashed segs ++ '/' :: cs)) := by
      simp [slashed]
    rw [hhead]
    change [] :: segments (s ++ (slashed segs ++ '/' :: cs)) = _
    rw [segments, Text.parts_free_append hfree, ← segments, ih hsegs]
    simp

theorem segments_append_slashed (h : ∀ s ∈ segs, IsWord s) (cs : List Char) :
    segments (cs ++ slashed segs) = segments cs ++ segs := by
  induction segs generalizing cs with
  | nil => simp [slashed]
  | cons s segs ih =>
    obtain ⟨hs, hsegs⟩ := List.forall_mem_cons.mp h
    have hfree : ∀ c ∈ s, (c == '/') = false :=
      fun c hc => beq_eq_false_iff_ne.mpr (hs.1 c hc).2.1
    have hone : segments s = [s] := Text.parts_of_free hfree
    have hhead : slashed (s :: segs) = '/' :: (s ++ slashed segs) := rfl
    rw [hhead, segments, Text.parts_append_cons cs _ (by decide), ← segments, ← segments, ih hsegs,
      hone, List.singleton_append]

end DynamicForm.Url
