import DynamicForm.Proofs.Storage.Sending
import DynamicForm.Proofs.Storage.Verdict

/-!
# References to forms

A definition is fetched, replaced and validated under a path with a reference to it, which is a
number or a text. The reference is put into the path as it is, and what may not stand in a path is
escaped afterwards. But the signs that part a path, end it or begin an escape keep their meaning, and
so do dots.

- `FormId.IsPlain` says of a reference that there are none of these in it.
- `Asks` says of a request which reference it has, and what there is around it.
- `Spells` says of an address that the reference is one segment of its path, escaped.
- `spells_of_plain`, `plain_of_spells`: a reference is spelled exactly if it is plain.
- `exists_dispatch_iff`: a request with a plain reference is sent unless it is too long or cannot be
  written.
-/

namespace DynamicForm

/-- There is nothing in the reference that has a meaning in an address. -/
def FormId.IsPlain (ref : FormId) : Prop :=
  (∀ c ∈ ref.display.toList, c ≠ '/' ∧ c ≠ '?' ∧ c ≠ '#' ∧ c ≠ '%') ∧ ¬Url.IsDots ref.display.toList

instance (ref : FormId) : Decidable ref.IsPlain :=
  @instDecidableAnd _ _ (List.decidableBAll _ ref.display.toList) inferInstance

namespace Storage

open Url (segments escape isPathSafe IsDots IsWord slashed)
open Text (cutAt)

/-- A request that refers to a form, and the segments of its path before and after the reference. -/
inductive Asks (ref : FormId) : Request → List String → List String → Prop where
  | fetchNumber : isNumeric ref.toValue = true →
      Asks ref (fetch ref.toValue).request ["forms", "definitions"] []
  | fetchKey : isNumeric ref.toValue = false →
      Asks ref (fetch ref.toValue).request ["forms", "definitions", "key"] []
  | update (d : Definition) : Asks ref (update ref.toValue d).request ["forms", "definitions"] []
  | validate {payload : Record} : payload.get? "id" = some ref.toValue →
      Asks ref (validate payload).request ["forms", "definitions"] ["validate-schema"]

/-- The address has no query, and its path is that of the base address and then some segments, the
escaped reference and some more segments. -/
structure Spells (base : Url) (lead : List String) (ref : FormId) (trail : List String) (u : Url) :
    Prop where
  query : u.query = none
  path : ∃ s, segments u.path.toList =
      base.front ++ lead.map String.toList ++ s :: trail.map String.toList ∧
    Url.isEscaped s = true ∧ Url.unescape (String.ofList s) = ref.display

/-- The path of the request is not too long to be read, nor is it behind the base address. -/
def Request.Fits (base : Url) (r : Request) : Prop :=
  r.path.toList.length ≤ Url.maxLength ∧
    (base.path.toList ++ (escape isPathSafe r.path.toList).tail).length ≤ Url.maxLength

/-! ## Requests

Four requests have a reference in their path. They differ in the words around it. -/

theorem display_toValue (ref : FormId) : ref.toValue.display = ref.display := by
  cases ref <;> rfl

theorem isNull_toValue (ref : FormId) : ref.toValue.isNull = false := by
  cases ref <;> rfl

/-- Each of them has the reference between words that mean nothing but themselves. -/
theorem Asks.refers {ref : FormId} {r : Request} {lead trail : List String}
    (h : Asks ref r lead trail) :
    Refers r ref.display.toList (lead.map String.toList) (trail.map String.toList) := by
  cases h with
  -- whether a reference counts as a number decides which of two paths it is put into
  | fetchNumber hnumeric =>
    refine ⟨?_, rfl, by decide, by decide, _, _, _, rfl⟩
    change (definitionPath ref.toValue).toList = _
    rw [definitionPath, if_pos hnumeric, display_toValue, String.toList_append]
    simp [slashed]
  | fetchKey hnumeric =>
    refine ⟨?_, rfl, by decide, by decide, _, _, _, rfl⟩
    change (definitionPath ref.toValue).toList = _
    rw [definitionPath, if_neg (by simp [hnumeric]), display_toValue, String.toList_append]
    simp [slashed]
  | update d =>
    refine ⟨?_, rfl, by decide, by decide, _, _, _, rfl⟩
    change ("/forms/definitions/" ++ ref.toValue.display).toList = _
    rw [display_toValue, String.toList_append]
    simp [slashed]
  | @validate payload hid =>
    refine ⟨?_, rfl, by decide, by decide, _, _, _, rfl⟩
    change (validationPath ((Record.get? payload "id").getD .null)).toList = _
    rw [hid, Option.getD_some, validationPath, isNull_toValue, if_neg Bool.false_ne_true,
      display_toValue, String.toList_append, String.toList_append]
    simp [slashed]

/-! ## Where a request is sent

Both directions look at the path behind the root, segment by segment. A plain reference is one
segment and stays one. If one is spelled, then a segment comes back as it, and as escaping never
makes a text shorter, the segment is the reference itself. -/

section Sending

variable {base : Url} {ref : FormId} {r : Request} {sent : Dispatch} {before after : List String}

/-- A plain reference is cut nowhere, nor is what comes after it. -/
theorem cutAt_of_plain (hplain : ref.IsPlain) {trail : List (List Char)}
    (htrail : ∀ s ∈ trail, IsWord s) {stop : Char} (hstop : stop = '#' ∨ stop = '?') :
    cutAt (· == stop) (ref.display.toList ++ slashed trail) =
      (ref.display.toList ++ slashed trail, none) := by
  refine Text.cutAt_of_free fun c hc => ?_
  rcases List.mem_append.mp hc with hc | hc
  · obtain ⟨-, hquery, hfragment, -⟩ := hplain.1 c hc
    rcases hstop with rfl | rfl
    · exact beq_eq_false_iff_ne.mpr hfragment
    · exact beq_eq_false_iff_ne.mpr hquery
  · exact Url.slashed_free htrail hstop c hc

theorem not_mem_of_plain (hplain : ref.IsPlain) : '%' ∉ ref.display.toList :=
  fun hmem => (hplain.1 '%' hmem).2.2.2 rfl

/-- What a plain reference is escaped to is no segment of dots either. -/
theorem not_isDots_escape (hplain : ref.IsPlain) :
    ¬IsDots (escape isPathSafe ref.display.toList) := by
  intro hdots
  have hback := Url.unescape_escape (not_mem_of_plain hplain)
  refine hplain.2 ?_
  rcases hdots with h | h <;> rw [h] at hback
  · exact .inl (String.ofList_injective hback).symm
  · exact .inr (String.ofList_injective hback).symm

/-- **A plain reference** is spelled. -/
theorem spells_of_plain (hroot : base.IsRoot) (hasks : Asks ref r before after)
    (h : r.dispatch base = .ok sent) (hplain : ref.IsPlain) :
    Spells base before ref after sent.url := by
  have hr := hasks.refers
  obtain ⟨hsegments, hquery⟩ := hr.segments_eq hroot h
  rw [cutAt_of_plain hplain hr.trailing (.inl rfl)] at hsegments hquery
  dsimp only at hsegments hquery
  rw [cutAt_of_plain hplain hr.trailing (.inr rfl)] at hsegments hquery
  -- the reference is one segment, and a segment of dots it is not
  have hone : segments ref.display.toList = [ref.display.toList] :=
    Text.parts_of_free fun c hc => beq_eq_false_iff_ne.mpr (hplain.1 c hc).1
  have hkept : ∀ t ∈ after.map String.toList, escape isPathSafe t = id t :=
    fun t ht => (hr.trailing t ht).escape_eq
  rw [Url.segments_append_slashed hr.trailing, hone, List.singleton_append, List.map_cons,
    List.map_congr_left hkept, List.map_id, Url.resolveDots_eq_self] at hsegments
  · exact ⟨hquery.mpr rfl, _, hsegments, Url.isEscaped_escape (not_mem_of_plain hplain),
      (Url.unescape_escape (not_mem_of_plain hplain)).trans String.ofList_toList⟩
  · intro s hs
    simp only [List.mem_append, List.mem_cons] at hs
    rcases hs with (hs | hs) | rfl | hs
    · exact hroot.front_plain s hs
    · exact (hr.leading s hs).2
    · exact not_isDots_escape hplain
    · exact (hr.trailing s hs).2

/-- A spelled reference is one of the segments of what is left of it after the sign of a fragment has
been looked for. -/
theorem exists_part_of_spells (hroot : base.IsRoot) (hasks : Asks ref r before after)
    (h : r.dispatch base = .ok sent) (hspells : Spells base before ref after sent.url) :
    ∃ cs, (cutAt (· == '#') (ref.display.toList ++ slashed (after.map String.toList))).1 = cs ∧
      (∀ c ∈ cs, (c == '?') = false) ∧
      ∃ p ∈ segments cs, Url.isEscaped (escape isPathSafe p) = true ∧
        Url.unescape (String.ofList (escape isPathSafe p)) = String.ofList ref.display.toList ∧
        ¬IsDots (escape isPathSafe p) := by
  have hr := hasks.refers
  obtain ⟨hsegments, hquery⟩ := hr.segments_eq hroot h
  obtain ⟨hnone, s, hpath, hescaped, hback⟩ := hspells
  obtain ⟨hcut, hfree⟩ := Text.free_of_cutAt (hquery.mp hnone)
  have hlead : ∀ s ∈ base.front ++ before.map String.toList, ¬IsDots s := by
    intro s hs
    rcases List.mem_append.mp hs with hs | hs
    · exact hroot.front_plain s hs
    · exact (hr.leading s hs).2
  -- resolving dots makes no new segments, so the spelled one comes from a segment of the path
  rw [hpath, hcut] at hsegments
  obtain ⟨hs, hdots⟩ := Url.mem_of_resolveDots_eq hlead hsegments.symm
  obtain ⟨p, hp, rfl⟩ := List.mem_map.mp hs
  exact ⟨_, rfl, hfree, p, hp, hescaped, hback.trans String.ofList_toList.symm, hdots⟩

/-- **A spelled reference** is plain: the segment that it comes back from cannot be shorter. -/
theorem plain_of_spells (hroot : base.IsRoot) (hasks : Asks ref r before after)
    (h : r.dispatch base = .ok sent) (hspells : Spells base before ref after sent.url) :
    ref.IsPlain := by
  have htrail := hasks.refers.trailing
  obtain ⟨cs, hcs, hquery, p, hp, hescaped, hback, hdots⟩ :=
    exists_part_of_spells hroot hasks h hspells
  rcases Text.cutAt_cases (· == '#') (ref.display.toList ++ slashed (after.map String.toList)) with
    ⟨hcut, hfragment⟩ | ⟨xs, c, ys, heq, hc, -, hcut⟩
  -- no sign ends the path, so the segment is the reference, or a word behind it
  · rw [hcut] at hcs
    subst hcs
    rw [Url.segments_append_slashed htrail] at hp
    have hw : p = ref.display.toList ∧ '%' ∉ p ∧ '/' ∉ p := by
      rcases List.mem_append.mp hp with hp | hp
      · obtain ⟨hmem, hlength, -⟩ := Text.mem_parts hp
        obtain ⟨hw, hpercent⟩ := Url.eq_of_unescape_escape hescaped hback hlength
        exact ⟨hw, hpercent, fun hslash => absurd (hmem '/' hslash).2 (by decide)⟩
      -- the segment could also be one of the words behind the reference, if these are the same
      · have hword := htrail p hp
        have hpercent : '%' ∉ p := fun hmem => (hword.1 '%' hmem).2.2 rfl
        rw [Url.unescape_escape hpercent] at hback
        exact ⟨String.ofList_injective hback, hpercent, fun hmem => (hword.1 '/' hmem).2.1 rfl⟩
    obtain ⟨rfl, hpercent, hslash⟩ := hw
    refine ⟨fun c hc => ⟨?_, ?_, ?_, ?_⟩, fun hd => hdots ?_⟩
    · exact fun hcs => hslash (hcs ▸ hc)
    · exact beq_eq_false_iff_ne.mp (hquery c (List.mem_append_left _ hc))
    · exact beq_eq_false_iff_ne.mp (hfragment c (List.mem_append_left _ hc))
    · exact fun hcs => hpercent (hcs ▸ hc)
    · rcases hd with hd | hd <;> rw [hd] <;> decide
  · -- the sign is in the reference, so what is left of it is shorter
    rw [hcut] at hcs
    subst hcs
    have hsign : c ∉ slashed (after.map String.toList) := by
      intro hmem
      rw [Url.slashed_free htrail (.inl rfl) c hmem] at hc
      cases hc
    have hlt : xs.length < ref.display.toList.length := by
      rcases List.append_eq_append_iff.mp heq with ⟨more, rfl, hmore⟩ | ⟨more, hw, hmore⟩
      · exact absurd (hmore ▸ List.mem_append_right more List.mem_cons_self) hsign
      · cases more with
        | nil =>
          rw [List.nil_append] at hmore
          exact absurd (hmore ▸ List.mem_cons_self) hsign
        | cons d more =>
          rw [hw, List.length_append, List.length_cons]
          omega
    have hlength : p.length ≤ xs.length := (Text.mem_parts hp).2.1
    obtain ⟨rfl, -⟩ := Url.eq_of_unescape_escape hescaped hback (by omega)
    omega

/-- **A request with a plain reference** is sent unless it is too long or cannot be written. -/
theorem exists_dispatch_iff (hroot : base.IsRoot) (hasks : Asks ref r before after)
    (hprintable : ∀ c ∈ ref.display.toList, Text.isPrintable c = true) (hplain : ref.IsPlain) :
    (∃ sent, r.dispatch base = .ok sent) ↔ r.Fits base ∧ r.IsWritable := by
  have hr := hasks.refers
  obtain ⟨c, cs, hc, -, hpath, hsafe⟩ := hr.exists_path_eq
  obtain ⟨rest, hrest⟩ :
      ∃ rest, ref.display.toList ++ slashed (after.map String.toList) = rest := ⟨_, rfl⟩
  rw [hrest] at hpath
  have hcut : ∀ stop : Char, stop = '#' ∨ stop = '?' →
      cutAt (· == stop) (cs ++ rest) = (cs ++ rest, none) := by
    intro stop hstop
    rw [Text.cutAt_free_append, ← hrest, cutAt_of_plain hplain hr.trailing hstop]
    exact fun d hd => beq_eq_false_iff_ne.mpr (Url.ne_of_isPathSafe
      (hsafe d (List.mem_cons_of_mem _ (List.mem_cons_of_mem _ hd))) hstop)
  -- nothing in the path is a control character, neither in the words nor in the reference
  have hcontrols : ∀ d ∈ '/' :: c :: (cs ++ rest), Url.isControl d = false := by
    intro d hd
    rw [← List.cons_append, ← List.cons_append, ← hrest] at hd
    rcases List.mem_append.mp hd with hd | hd
    · exact Url.isControl_of_isPathSafe (hsafe d hd)
    · rcases List.mem_append.mp hd with hd | hd
      · exact Url.isControl_of_isPrintable (hprintable d hd)
      · exact Url.isControl_of_isPathSafe (Url.isPathSafe_of_mem_slashed hr.trailing hd)
  -- so the path is read just as it stands, provided that it is not too long
  have hread : ∀ u, Url.read r.path = .ok u ↔
      r.path.toList.length ≤ Url.maxLength ∧ u = Url.ofPath (c :: (cs ++ rest)) none none := by
    intro u
    rw [hpath, Url.read_path hc, hcut '#' (.inl rfl), String.toList_ofList]
    dsimp only
    rw [hcut '?' (.inr rfl)]
    exact and_congr_right fun _ => and_iff_right hcontrols
  have htail : (escape isPathSafe r.path.toList).tail =
      escape isPathSafe (c :: (cs ++ rest)) := by
    rw [hpath, String.toList_ofList]
    rfl
  rw [Request.Fits, htail, ← hroot.exists_join hc]
  constructor
  · rintro ⟨sent, h⟩
    obtain ⟨v, ⟨u, hu, hv⟩, hwritable, -⟩ := (dispatch_eq_ok hr.query).mp h
    obtain ⟨hlength, rfl⟩ := (hread u).mp hu
    exact ⟨⟨hlength, v, hv⟩, hwritable⟩
  · rintro ⟨⟨hlength, v, hv⟩, hwritable⟩
    exact ⟨_, (dispatch_eq_ok hr.query).mpr
      ⟨v, ⟨_, (hread _).mpr ⟨hlength, rfl⟩, hv⟩, hwritable, rfl⟩⟩

/-- **Two plain references** in requests that are sent to one address are written the same. -/
theorem display_eq_of_url_eq (hroot : base.IsRoot) {other : FormId} {r' : Request} {sent' : Dispatch}
    (hasks : Asks ref r before after) (hasks' : Asks other r' before after)
    (hplain : ref.IsPlain) (hplain' : other.IsPlain) (h : r.dispatch base = .ok sent)
    (h' : r'.dispatch base = .ok sent') (hurl : sent.url = sent'.url) :
    ref.display = other.display := by
  obtain ⟨-, s, hpath, -, hback⟩ := spells_of_plain hroot hasks h hplain
  obtain ⟨-, t, hpath', -, hback'⟩ := spells_of_plain hroot hasks' h' hplain'
  rw [hurl, hpath'] at hpath
  obtain ⟨rfl, -⟩ := List.cons.inj (List.append_cancel_left hpath)
  exact hback.symm.trans hback'

end Sending

/-- **References.** Behind a root, a reference is spelled by each request that is sent exactly if it
is plain; a request with a plain one is sent unless it is too long or cannot be written; and two
plain ones that are sent to one address are written the same. -/
theorem reference_spelled {base : Url} (hroot : base.IsRoot) :
    (∀ (ref : FormId) (r : Request) (before after : List String) (sent : Dispatch),
      Asks ref r before after → r.dispatch base = .ok sent →
      (Spells base before ref after sent.url ↔ ref.IsPlain)) ∧
    (∀ (ref : FormId) (r : Request) (before after : List String), Asks ref r before after →
      (∀ c ∈ ref.display.toList, Text.isPrintable c = true) → ref.IsPlain →
      ((∃ sent, r.dispatch base = .ok sent) ↔ r.Fits base ∧ r.IsWritable)) ∧
    (∀ (ref other : FormId) (r r' : Request) (before after : List String) (sent sent' : Dispatch),
      Asks ref r before after → Asks other r' before after → ref.IsPlain → other.IsPlain →
      r.dispatch base = .ok sent → r'.dispatch base = .ok sent' → sent.url = sent'.url →
      ref.display = other.display) :=
  ⟨fun _ _ _ _ _ hasks h => ⟨plain_of_spells hroot hasks h, spells_of_plain hroot hasks h⟩,
    fun _ _ _ _ hasks hprintable hplain => exists_dispatch_iff hroot hasks hprintable hplain,
    fun _ _ _ _ _ _ _ _ hasks hasks' hplain hplain' h h' hurl =>
      display_eq_of_url_eq hroot hasks hasks' hplain hplain' h h' hurl⟩

/-- An address of storage with a path. -/
def root : Url := { scheme := "https", authority := "forms.example.com", path := "/api/v1/" }

theorem root_isRoot : root.IsRoot where
  scheme := by decide
  query := rfl
  first := rfl
  last := rfl
  safe := List.all_eq_true.mp (by decide)
  plain := by decide
  again := by
    have hok : (root.withTarget root.target).isOk = true := by decide +kernel
    cases h : root.withTarget root.target with
    | error e =>
      rw [h] at hok
      cases hok
    | ok v => exact ⟨v, rfl⟩

/-- A key with a blank and a letter beyond ASCII. -/
theorem reference_spelled_umlaut :
    ∃ sent, (fetch (.text "für alle")).request.dispatch root = .ok sent ∧
      Spells root ["forms", "definitions", "key"] (.text "für alle") [] sent.url := by
  have hasks : Asks (.text "für alle") (fetch (.text "für alle")).request
      ["forms", "definitions", "key"] [] := .fetchKey (by decide +kernel)
  have hplain : (FormId.text "für alle").IsPlain := by decide
  have hprintable : ∀ c ∈ (FormId.text "für alle").display.toList, Text.isPrintable c = true :=
    List.all_eq_true.mp (by decide +kernel)
  obtain ⟨hspells, hsent, -⟩ := reference_spelled root_isRoot
  obtain ⟨sent, h⟩ := (hsent _ _ _ _ hasks hprintable hplain).mpr
    ⟨⟨by decide +kernel, by decide +kernel⟩, nofun⟩
  exact ⟨sent, h, (hspells _ _ _ _ sent hasks h).mpr hplain⟩

/-- **A sign of a fragment** ends the path: what is asked for has another key. -/
theorem not_spelled_fragment :
    ¬∀ (base : Url) (ref : FormId) (r : Request) (before after : List String) (sent : Dispatch),
      base.IsRoot → (∀ c ∈ ref.display.toList, Text.isPrintable c = true) →
      Asks ref r before after → r.dispatch base = .ok sent →
      Spells base before ref after sent.url := by
  intro h
  have hasks : Asks (.text "a#b") (fetch (.text "a#b")).request ["forms", "definitions", "key"] [] :=
    .fetchKey (by decide +kernel)
  obtain ⟨sent, hsent⟩ : ∃ sent, (fetch (.text "a#b")).request.dispatch root = .ok sent :=
    dispatch_of_isOk (by decide +kernel)
  have hprintable : ∀ c ∈ (FormId.text "a#b").display.toList, Text.isPrintable c = true :=
    List.all_eq_true.mp (by decide +kernel)
  have hspells := h root _ _ _ _ sent root_isRoot hprintable hasks hsent
  exact absurd (plain_of_spells root_isRoot hasks hsent hspells) (by decide)

end Storage

end DynamicForm
