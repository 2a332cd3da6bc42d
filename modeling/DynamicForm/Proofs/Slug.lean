import DynamicForm.Proofs.Text.Lowering
import DynamicForm.Proofs.Text.Parts
import DynamicForm.Slug
import Mathlib.Data.List.TakeWhile

/-!
# How slugs are spelled

A slug is what remains of a label when everything but small ASCII letters and digits is dropped from
its lower case, with an underscore wherever something stood between two of them. The underscores are
put in for every run of other characters first, and those at the ends are taken away afterwards.

- `Slug.runs` lists the runs of letters and digits of a text.
- `Slug.strip_collapse`: what remains of a text is its runs, joined by single underscores.
- `Slug.runs_intercalate`: runs that are joined in this way are the runs of the text that results.
- `slug_spelled`: so a slug has the letters and digits of the label in lower case, in order, and is
  its own slug.
-/

namespace DynamicForm

namespace Slug

variable {c : Char} {cs run front body back : List Char} {rs : List (List Char)}

/-! ## Runs

Runs are what a text consists of for a slug. Two texts with the same runs have the same slug. -/

/-- A run of letters and digits. -/
structure IsRun (run : List Char) : Prop where
  ne_nil : run ≠ []
  slugChars : ∀ c ∈ run, isSlugChar c = true

/-- The runs of letters and digits of a text, in order: what is left when it is cut at all other
characters. -/
def runs (cs : List Char) : List (List Char) :=
  (Text.parts (fun c => !isSlugChar c) cs).filter fun run => !run.isEmpty

/-- Runs are not empty, since empty parts are left out. -/
theorem isRun_of_mem_runs (h : run ∈ runs cs) : IsRun run := by
  obtain ⟨hpart, hne⟩ := List.mem_filter.mp h
  exact ⟨by simpa using hne, fun c hc => by simpa using ((Text.mem_parts hpart).1 c hc).2⟩

/-- The runs are all the letters and digits of the text. -/
theorem flatten_runs (cs : List Char) : (runs cs).flatten = cs.filter isSlugChar := by
  rw [runs, List.flatten_filter_not_isEmpty, Text.flatten_parts]
  simp only [Bool.not_not]

/-- There are no runs where there is nothing to keep. -/
theorem runs_eq_nil_iff : runs cs = [] ↔ ∀ c ∈ cs, isSlugChar c = false := by
  have hall : (runs cs).flatten = [] ↔ ∀ c ∈ cs, isSlugChar c = false := by
    rw [flatten_runs, List.filter_eq_nil_iff]
    simp only [Bool.not_eq_true]
  rw [← hall, List.flatten_eq_nil_iff]
  constructor
  · intro hnil run hrun
    rw [hnil] at hrun
    cases hrun
  · exact fun h => List.eq_nil_iff_forall_not_mem.mpr fun run hrun =>
      (isRun_of_mem_runs hrun).ne_nil (h run hrun)

theorem IsRun.runs_eq (h : IsRun run) : runs run = [run] := by
  rw [runs, Text.parts_of_free (by simpa using h.slugChars)]
  exact List.filter_cons_of_pos (by simpa using h.ne_nil)

/-- Any other character keeps runs apart. -/
theorem runs_append_cons (xs ys : List Char) (hc : isSlugChar c = false) :
    runs (xs ++ c :: ys) = runs xs ++ runs ys := by
  rw [runs, Text.parts_append_cons xs ys (by rw [hc, Bool.not_false]), List.filter_append]
  rfl

/-- What is kept is in the lower half of ASCII and no capital letter. -/
theorem toNat_of_isSlugChar (h : isSlugChar c = true) :
    c.toNat < 128 ∧ (c.toNat < 65 ∨ 90 < c.toNat) := by
  rw [isSlugChar, Bool.or_eq_true_iff, decide_eq_true_eq, decide_eq_true_eq] at h
  rcases h with ⟨hlow, hhigh⟩ | ⟨hlow, hhigh⟩
  · have hlow : 97 ≤ c.toNat := hlow
    have hhigh : c.toNat ≤ 122 := hhigh
    omega
  · have hhigh : c.toNat ≤ 57 := hhigh
    omega

theorem isSlugChar_underscore : isSlugChar '_' = false := by decide

/-- **Joined runs** are the runs of the text that results. -/
theorem runs_intercalate (h : ∀ run ∈ rs, IsRun run) : runs (['_'].intercalate rs) = rs := by
  induction rs with
  | nil => rfl
  | cons run rest ih =>
    obtain ⟨hrun, hrest⟩ := List.forall_mem_cons.mp h
    by_cases hnil : rest = []
    · subst hnil
      rw [List.intercalate_singleton]
      exact hrun.runs_eq
    · rw [List.intercalate_cons_of_ne_nil hnil, List.append_assoc, List.singleton_append,
        runs_append_cons _ _ isSlugChar_underscore, hrun.runs_eq, ih hrest, List.singleton_append]

/-- Between letters and digits there is nothing but underscores. -/
theorem mem_intercalate (h : ∀ run ∈ rs, IsRun run) (hc : c ∈ ['_'].intercalate rs) :
    isSlugChar c = true ∨ c = '_' := by
  induction rs with
  | nil => cases hc
  | cons run rest ih =>
    obtain ⟨hrun, hrest⟩ := List.forall_mem_cons.mp h
    by_cases hnil : rest = []
    · subst hnil
      rw [List.intercalate_singleton] at hc
      exact .inl (hrun.slugChars c hc)
    · rw [List.intercalate_cons_of_ne_nil hnil, List.append_assoc, List.mem_append,
        List.singleton_append, List.mem_cons] at hc
      rcases hc with hc | rfl | hc
      · exact .inl (hrun.slugChars c hc)
      · exact .inr rfl
      · exact ih hrest hc

/-! ## Underscores at the ends

They are taken away from both ends, and joined runs have none there. So what stands between is all
that remains. -/

/-- No underscore stands at either end. -/
structure Bare (cs : List Char) : Prop where
  first : ∀ c ∈ cs.head?, c ≠ '_'
  last : ∀ c ∈ cs.getLast?, c ≠ '_'

theorem dropWhile_eq_self (h : ∀ c ∈ cs.head?, c ≠ '_') : cs.dropWhile (· == '_') = cs := by
  cases cs with
  | nil => rfl
  | cons c rest => exact List.dropWhile_cons_of_neg (by simpa using h c rfl)

/-- Underscores around a text are dropped, and nothing else is. -/
theorem strip_padded (hfront : ∀ c ∈ front, c = '_') (hback : ∀ c ∈ back, c = '_')
    (h : Bare body) : strip (front ++ body ++ back) = body := by
  have hdrop : ∀ xs ys : List Char, (∀ c ∈ xs, c = '_') →
      (xs ++ ys).dropWhile (· == '_') = ys.dropWhile (· == '_') :=
    fun xs ys hxs => List.dropWhile_append_of_pos fun c hc => beq_iff_eq.mpr (hxs c hc)
  rw [strip, List.append_assoc, hdrop _ _ hfront]
  by_cases hbody : body = []
  · subst hbody
    rw [List.nil_append, List.dropWhile_eq_nil_iff.mpr fun c hc => beq_iff_eq.mpr (hback c hc)]
    rfl
  -- taking away from the front stops at the first character of the body, and so from behind
  · have hfirst : ∀ c ∈ (body ++ back).head?, c ≠ '_' := by
      rw [List.head?_append, List.head?_eq_some_head hbody, Option.some_or,
        ← List.head?_eq_some_head hbody]
      exact h.first
    have hlast : ∀ c ∈ body.reverse.head?, c ≠ '_' := by
      rw [List.head?_reverse]
      exact h.last
    rw [dropWhile_eq_self hfirst, List.reverse_append,
      hdrop _ _ fun c hc => hback c (List.mem_reverse.mp hc), dropWhile_eq_self hlast,
      List.reverse_reverse]

theorem IsRun.bare (h : IsRun run) : Bare run := by
  have hne : ∀ c ∈ run, c ≠ '_' := by
    rintro c hc rfl
    exact absurd (h.slugChars _ hc) (Bool.eq_false_iff.mp isSlugChar_underscore)
  exact ⟨fun c hc => hne c (List.mem_of_mem_head? hc), fun c hc => hne c (List.mem_of_getLast? hc)⟩

theorem intercalate_ne_nil (hne : rs ≠ []) (h : ∀ run ∈ rs, IsRun run) :
    ['_'].intercalate rs ≠ [] := by
  intro hnil
  have hruns := runs_intercalate h
  rw [hnil] at hruns
  exact hne hruns.symm

/-- Joined runs begin and end as the first and the last of them do. -/
theorem bare_intercalate (h : ∀ run ∈ rs, IsRun run) : Bare (['_'].intercalate rs) := by
  induction rs with
  | nil => exact ⟨nofun, nofun⟩
  | cons run rest ih =>
    obtain ⟨hrun, hrest⟩ := List.forall_mem_cons.mp h
    by_cases hnil : rest = []
    · subst hnil
      rw [List.intercalate_singleton]
      exact hrun.bare
    · rw [List.intercalate_cons_of_ne_nil hnil]
      constructor
      · rw [List.append_assoc, List.head?_append, List.head?_eq_some_head hrun.ne_nil,
          Option.some_or, ← List.head?_eq_some_head hrun.ne_nil]
        exact hrun.bare.first
      · have hlast := List.getLast?_eq_some_getLast (intercalate_ne_nil hnil hrest)
        rw [List.getLast?_append, hlast, Option.some_or, ← hlast]
        exact (ih hrest).last

/-! ## What remains

The program goes through the text once and remembers whether the last character was one to drop. The
induction goes run by run instead, because an underscore stands for a whole stretch. -/

/-- A run is kept as it is, and afterwards nothing has been dropped yet. -/
theorem collapse_append (within : Bool) (h : IsRun run) (cs : List Char) :
    collapse within (run ++ cs) = run ++ collapse false cs := by
  obtain ⟨hne, hall⟩ := h
  induction run generalizing within with
  | nil => exact absurd rfl hne
  | cons c rest ih =>
    obtain ⟨hc, hrest⟩ := List.forall_mem_cons.mp hall
    rw [List.cons_append, collapse, if_pos hc, List.cons_append]
    cases rest with
    | nil => rfl
    | cons d rest => rw [ih false (List.cons_ne_nil d rest) hrest]

/-- The first character that is dropped leaves an underscore, those after it leave nothing. -/
theorem collapse_cons_other (hc : isSlugChar c = false) (within : Bool) (cs : List Char) :
    collapse within (c :: cs) = (if within then [] else ['_']) ++ collapse true cs := by
  rw [collapse, if_neg (Bool.eq_false_iff.mp hc)]
  cases within <;> rfl

/-- Once other characters have begun, what remains is the runs with single underscores between them,
and at most underscores after them. -/
theorem collapse_true (cs : List Char) :
    ∃ back, (∀ c ∈ back, c = '_') ∧ collapse true cs = ['_'].intercalate (runs cs) ++ back := by
  -- by induction on the length, since the text is taken apart run by run
  induction hn : cs.length using Nat.strong_induction_on generalizing cs with
  | _ n ih =>
  rcases Text.cutAt_cases (fun c => !isSlugChar c) cs with
    ⟨-, hfree⟩ | ⟨xs, c, ys, rfl, hc, hfree, -⟩
  · by_cases hnil : cs = []
    · subst hnil
      exact ⟨[], List.forall_mem_nil _, rfl⟩
    · have hrun : IsRun cs := ⟨hnil, by simpa using hfree⟩
      refine ⟨[], List.forall_mem_nil _, ?_⟩
      rw [hrun.runs_eq, List.intercalate_singleton]
      simpa [collapse] using collapse_append true hrun []
  · have hother : isSlugChar c = false := by simpa using hc
    obtain ⟨back, hback, heq⟩ := ih ys.length (by simp at hn; omega) ys rfl
    rw [runs_append_cons xs ys hother]
    by_cases hnil : xs = []
    · subst hnil
      exact ⟨back, hback, by rw [List.nil_append, collapse_cons_other hother, heq]; rfl⟩
    · have hrun : IsRun xs := ⟨hnil, by simpa using hfree⟩
      rw [collapse_append true hrun, collapse_cons_other hother, heq, hrun.runs_eq]
      -- after the last run the underscore belongs to those at the end
      by_cases hlast : runs ys = []
      · exact ⟨'_' :: back, List.forall_mem_cons.mpr ⟨rfl, hback⟩, by rw [hlast]; simp⟩
      · refine ⟨back, hback, ?_⟩
        rw [List.singleton_append, List.intercalate_cons_of_ne_nil hlast]
        simp

/-- The first of other characters leaves an underscore, if there are such at the beginning. -/
theorem collapse_false (cs : List Char) :
    ∃ front, (∀ c ∈ front, c = '_') ∧ collapse false cs = front ++ collapse true cs := by
  cases cs with
  | nil => exact ⟨[], List.forall_mem_nil _, rfl⟩
  | cons c rest =>
    cases hc : isSlugChar c with
    | true => exact ⟨[], List.forall_mem_nil _, by rw [collapse, collapse, if_pos hc, if_pos hc]; rfl⟩
    | false =>
      refine ⟨['_'], List.forall_mem_singleton.mpr rfl, ?_⟩
      rw [collapse_cons_other hc, collapse_cons_other hc]
      rfl

/-- **What remains** of a text is its runs, joined by single underscores. -/
theorem strip_collapse (cs : List Char) :
    strip (collapse false cs) = ['_'].intercalate (runs cs) := by
  obtain ⟨front, hfront, hfalse⟩ := collapse_false cs
  obtain ⟨back, hback, htrue⟩ := collapse_true cs
  rw [hfalse, htrue, ← List.append_assoc]
  exact strip_padded hfront hback (bare_intercalate fun _ => isRun_of_mem_runs)

end Slug

open Slug

/-- The runs of a slug are those of the label in lower case. -/
theorem slug_toList (s : String) :
    (slug s).toList = ['_'].intercalate (runs (Text.lower s).toList) := by
  rw [slug, String.toList_ofList, strip_collapse, Text.lower, String.toList_ofList]

theorem runs_slug (s : String) : runs (slug s).toList = runs (Text.lower s).toList := by
  rw [slug_toList, runs_intercalate fun _ => isRun_of_mem_runs]

theorem slug_eq_empty_iff (s : String) :
    slug s = "" ↔ ∀ c ∈ (Text.lower s).toList, isSlugChar c = false := by
  rw [← runs_eq_nil_iff, ← runs_slug]
  constructor
  · intro hempty
    rw [hempty]
    rfl
  · intro hnil
    rw [← String.toList_inj, slug_toList, ← runs_slug, hnil]
    rfl

/-- A slug is in lower case. -/
theorem lower_slug (s : String) : Text.lower (slug s) = slug s := by
  have hsmall : ∀ c ∈ (slug s).toList, c.toNat < 128 ∧ (c.toNat < 65 ∨ 90 < c.toNat) := by
    intro c hc
    rw [slug_toList] at hc
    rcases mem_intercalate (fun _ => isRun_of_mem_runs) hc with hslug | rfl
    · exact toNat_of_isSlugChar hslug
    · decide
  rw [Text.lower, Text.lowerChars, Text.lowerFrom_eq_self hsmall, String.ofList_toList]

/-- **Slugs.** A slug is empty, or it is made of runs of small ASCII letters and digits that are
joined by single underscores. It is empty only if the label in lower case has no such character; it
has exactly these characters of it, in order; and it is its own slug. -/
theorem slug_spelled (s : String) :
    (slug s = "" ∨ ∃ rs ≠ [], (∀ run ∈ rs, IsRun run) ∧ (slug s).toList = ['_'].intercalate rs) ∧
    (slug s = "" ↔ ∀ c ∈ (Text.lower s).toList, isSlugChar c = false) ∧
    (slug s).toList.filter isSlugChar = (Text.lower s).toList.filter isSlugChar ∧
    slug (slug s) = slug s := by
  refine ⟨?_, slug_eq_empty_iff s, ?_, ?_⟩
  · by_cases hnil : runs (Text.lower s).toList = []
    · exact .inl ((slug_eq_empty_iff s).mpr (runs_eq_nil_iff.mp hnil))
    · exact .inr ⟨_, hnil, fun _ => isRun_of_mem_runs, slug_toList s⟩
  · rw [← flatten_runs, runs_slug, flatten_runs]
  · rw [← String.toList_inj, slug_toList (slug s), lower_slug, runs_slug, slug_toList s]

/-- The small form of one letter can be an ASCII letter and a mark, which parts it from the rest. -/
example : slug "  Straße Nr. 2 (İzmir)__" = "stra_e_nr_2_i_zmir" := by cbv

end DynamicForm
