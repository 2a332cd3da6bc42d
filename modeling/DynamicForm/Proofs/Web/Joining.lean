import DynamicForm.Proofs.Web.Path

/-!
# Putting addresses behind each other

An address that is no more than a path, perhaps with a query and a fragment, is read as such. It is
put behind a base address by putting the two paths together, and then the dots are resolved.

- `Url.IsRoot` says of a base address that other addresses can be put behind it.
- `Url.read_path`: how a path is read as an address.
- `Url.IsRoot.of_join`: what an address is that has been put behind a root.
- `Url.IsRoot.exists_join`: when an address can be put behind a root.
-/

namespace DynamicForm.Url

open Text (cutAt)

/-- The segments of the path of a base address, without the empty one at the end. -/
def front (base : Url) : List (List Char) := (segments base.path.toList).dropLast

/-- The address has a scheme and no query, its path is in its plain form and has a slash at either
end, and its other parts can be read once more. -/
structure IsRoot (u : Url) : Prop where
  scheme : u.scheme ≠ ""
  query : u.query = none
  first : u.path.toList.head? = some '/'
  last : u.path.toList.getLast? = some '/'
  safe : ∀ c ∈ u.path.toList, isPathSafe c = true
  plain : ∀ s ∈ segments u.path.toList, ¬IsDots s
  again : ∃ v, u.withTarget u.target = .ok v

variable {cs : List Char}

/-! ## Reading

A path behind a slash has no scheme and no authority, provided that no second slash follows. Then
only the signs of a query and of a fragment can end it. -/

theorem bind_eq_ok {ε α β : Type} {x : Except ε α} {f : α → Except ε β} {b : β} :
    (x >>= f) = .ok b ↔ ∃ a, x = .ok a ∧ f a = .ok b := by
  cases x with
  | error e => exact iff_of_false nofun fun ⟨_, h, _⟩ => nomatch h
  | ok a => exact ⟨fun h => ⟨a, rfl, h⟩, fun ⟨_, h, hb⟩ => (Except.ok.inj h) ▸ hb⟩

/-- Control characters are refused before anything else. -/
theorem checkControls_eq_ok : checkControls cs = .ok () ↔ ∀ c ∈ cs, isControl c = false := by
  rw [← List.findIdx?_eq_none_iff, checkControls]
  cases cs.findIdx? isControl <;> simp

/-- The address that is a path behind a slash, with a query and a fragment. -/
def ofPath (path : List Char) (query fragment : Option (List Char)) : Url where
  path := String.ofList (escape isPathSafe ('/' :: path))
  query := query.map fun q => String.ofList (escape isQuerySafe q)
  fragment := fragment.map fun f => String.ofList (escape isFragmentSafe f)

/-- A character that begins a path behind a slash, and nothing else. -/
def BeginsPath (c : Char) : Prop := isPathSafe c = true ∧ c ≠ '/'

/-- Parts that are no more than a path make an address without further ado. -/
theorem ofParts_path {c : Char} (hc : BeginsPath c) (path : List Char)
    (query fragment : Option (List Char)) :
    ofParts [] [] ('/' :: c :: path) query fragment = .ok (ofPath (c :: path) query fragment) := by
  have hpath : checkRelativePath ('/' :: c :: path) = .ok () := by
    unfold checkRelativePath
    split
    · next heq => exact absurd (List.cons.inj (List.cons.inj heq).2).1 hc.2
    · next heq => exact absurd (List.cons.inj heq).1 (by decide)
    · rfl
  have hauthority : plainAuthority [] [] = .ok [] := rfl
  unfold ofParts
  rw [hauthority]
  change (checkRelativePath ('/' :: c :: path) >>= fun _ => _) = _
  rw [hpath]
  rfl

/-- **Reading** a path behind a slash: it ends where a query or a fragment begins. -/
theorem read_path {c : Char} (hc : BeginsPath c) {u : Url} :
    read (String.ofList ('/' :: c :: cs)) = .ok u ↔
      ('/' :: c :: cs).length ≤ maxLength ∧ (∀ d ∈ '/' :: c :: cs, isControl d = false) ∧
        u = ofPath (c :: (cutAt (· == '?') (cutAt (· == '#') cs).1).1)
          (cutAt (· == '?') (cutAt (· == '#') cs).1).2 (cutAt (· == '#') cs).2 := by
  -- neither of the first two characters is a sign that the path ends
  have hcut : ∀ stop : Char, stop = '#' ∨ stop = '?' → ∀ cs, cutAt (· == stop) ('/' :: c :: cs) =
      ('/' :: c :: (cutAt (· == stop) cs).1, (cutAt (· == stop) cs).2) := by
    intro stop hstop cs
    have hfree : ∀ d ∈ ['/', c], (d == stop) = false := by
      intro d hd
      refine beq_eq_false_iff_ne.mpr (ne_of_isPathSafe ?_ hstop)
      rcases List.mem_cons.mp hd with rfl | hd
      · decide
      · exact List.mem_singleton.mp hd ▸ hc.1
    exact Text.cutAt_free_append hfree
  have hauthority : splitAuthority ('/' :: c :: cs) = ([], '/' :: c :: cs) := by
    unfold splitAuthority
    split
    · next heq => exact absurd (List.cons.inj (List.cons.inj heq).2).1 hc.2
    · rfl
  unfold read
  rw [String.toList_ofList, ← checkControls_eq_ok]
  by_cases hlength : maxLength < ('/' :: c :: cs).length
  · rw [if_pos hlength]
    exact iff_of_false nofun fun h => absurd hlength (Nat.not_lt.mpr h.1)
  rw [if_neg hlength, and_iff_right (Nat.not_lt.mp hlength)]
  -- the scheme is empty, since there is a slash first
  change (checkControls ('/' :: c :: cs) >>= fun _ =>
    ofParts [] (splitAuthority ('/' :: c :: cs)).1
      (cutAt (· == '?') (cutAt (· == '#') (splitAuthority ('/' :: c :: cs)).2).1).1
      (cutAt (· == '?') (cutAt (· == '#') (splitAuthority ('/' :: c :: cs)).2).1).2
      (cutAt (· == '#') (splitAuthority ('/' :: c :: cs)).2).2) = _ ↔ _
  rw [bind_eq_ok, hauthority]
  dsimp only
  rw [hcut '#' (.inl rfl)]
  dsimp only
  rw [hcut '?' (.inr rfl), ofParts_path hc, Except.ok.injEq]
  exact ⟨fun ⟨(), hcontrols, hu⟩ => ⟨hcontrols, hu.symm⟩,
    fun ⟨hcontrols, hu⟩ => ⟨(), hcontrols, hu.symm⟩⟩

/-! ## Joining

A relative address is put behind the path of the base address as a text. The result is taken apart
again, and its dots are resolved. -/

theorem checkPart_eq_ok {name : String} : checkPart name cs = .ok () ↔ cs.length ≤ maxLength := by
  unfold checkPart
  split
  · next h => exact iff_of_false nofun (Nat.not_le.mpr h)
  · next h => exact iff_of_true rfl (Nat.not_lt.mp h)

/-- An address of parts with a scheme. -/
theorem ofParts_eq_ok {scheme authority path : List Char} {query fragment : Option (List Char)}
    {v : Url} (hscheme : scheme ≠ []) : ofParts scheme authority path query fragment = .ok v ↔
      ∃ name, plainAuthority scheme authority = .ok name ∧
        v = { scheme := String.ofList (scheme.map Char.toLower)
              authority := String.ofList name
              path := String.ofList (escape isPathSafe (plainPath path))
              query := query.map fun q => String.ofList (escape isQuerySafe q)
              fragment := fragment.map fun f => String.ofList (escape isFragmentSafe f) } := by
  have hrelative : ∀ name : List Char, (scheme.isEmpty && name.isEmpty) = false := by
    intro name
    rw [List.isEmpty_eq_false_iff.mpr hscheme, Bool.false_and]
  unfold ofParts
  rw [bind_eq_ok]
  simp only [hrelative, Bool.false_eq_true, if_false]
  refine exists_congr fun name => and_congr_right fun _ => ?_
  exact ⟨fun h => (Except.ok.inj h).symm, fun h => congrArg Except.ok h.symm⟩

/-- An address has another path and query if no part is too long. -/
theorem withTarget_eq_ok {u v : Url} {target : String} : u.withTarget target = .ok v ↔
    (u.authority.toList.length ≤ maxLength ∧ (cutAt (· == '?') target.toList).1.length ≤ maxLength ∧
      ((cutAt (· == '?') target.toList).2.getD []).length ≤ maxLength ∧
      (u.fragment.getD "").toList.length ≤ maxLength) ∧
    ofParts u.scheme.toList u.authority.toList (cutAt (· == '?') target.toList).1
      (cutAt (· == '?') target.toList).2 (u.fragment.map String.toList) = .ok v := by
  have hcheck : ∀ {name : String} {cs : List Char} {next : Except UrlError Url},
      (checkPart name cs >>= fun _ => next) = .ok v ↔ cs.length ≤ maxLength ∧ next = .ok v := by
    intro name cs next
    rw [bind_eq_ok, ← checkPart_eq_ok]
    exact ⟨fun ⟨(), h⟩ => h, fun h => ⟨(), h⟩⟩
  -- the four parts are tested one after the other
  unfold withTarget
  refine hcheck.trans ?_
  rw [and_assoc]
  refine and_congr_right fun _ => hcheck.trans ?_
  rw [and_assoc]
  refine and_congr_right fun _ => hcheck.trans ?_
  rw [and_assoc]
  exact and_congr_right fun _ => hcheck

section Root

variable {base v : Url} {c : Char} {path : List Char} {query fragment : Option (List Char)}

theorem IsRoot.scheme_toList_ne_nil (hroot : base.IsRoot) : base.scheme.toList ≠ [] :=
  fun h => hroot.scheme (String.toList_eq_nil_iff.mp h)

theorem IsRoot.front_plain (hroot : base.IsRoot) : ∀ s ∈ base.front, ¬IsDots s :=
  fun s hs => hroot.plain s (List.dropLast_subset _ hs)

/-- A root has no query, so what others are put behind is its path. -/
theorem IsRoot.target_eq (hroot : base.IsRoot) : base.target = base.path := by
  have hne : base.path ≠ "" := by
    intro hempty
    have hfirst := hroot.first
    rw [hempty] at hfirst
    cases hfirst
  -- only an empty path would be written otherwise
  rw [target, hroot.query, if_neg hne, String.append_empty]

/-- The path of a root ends in a slash, so what is put behind it has segments of its own. -/
theorem IsRoot.segments_append (hroot : base.IsRoot) (cs : List Char) :
    segments (base.path.toList ++ cs) = base.front ++ segments cs := by
  obtain ⟨before, hbefore⟩ := List.getLast?_eq_some_iff.mp hroot.last
  have hfront : base.front = segments before := by
    rw [front, hbefore, segments, Text.parts_append_cons _ _ (by decide)]
    exact List.dropLast_concat
  rw [hfront, hbefore, List.append_assoc, List.singleton_append]
  exact Text.parts_append_cons before cs (by decide)

/-- Where an address is that is put behind a root. -/
theorem IsRoot.join_ofPath (hroot : base.IsRoot) (hc : BeginsPath c) :
    base.join (ofPath (c :: path) query fragment) = base.withTarget (String.ofList
      (base.path.toList ++ escape isPathSafe (c :: path) ++
        (query.map fun q => '?' :: escape isQuerySafe q).getD [])) := by
  have habsolute : (ofPath (c :: path) query fragment).isAbsolute = false := rfl
  have hpath : escape isPathSafe ('/' :: c :: path) = '/' :: escape isPathSafe (c :: path) := rfl
  -- the path goes on with a character that is kept, so that only its slash is dropped
  have hbegin : escape isPathSafe (c :: path) = c :: escape isPathSafe path := by
    rw [escape_cons, if_pos hc.1, List.singleton_append]
  have htarget : (ofPath (c :: path) query fragment).target.toList =
      '/' :: (escape isPathSafe (c :: path) ++
        (query.map fun q => '?' :: escape isQuerySafe q).getD []) := by
    have hne : String.ofList (escape isPathSafe ('/' :: c :: path)) ≠ "" := by
      intro hempty
      rw [← String.toList_eq_nil_iff, String.toList_ofList] at hempty
      cases hempty
    unfold target ofPath
    dsimp only
    rw [if_neg hne]
    cases query <;> simp [hpath]
  rw [join, habsolute, if_neg Bool.false_ne_true, hroot.target_eq, htarget]
  congr 1
  rw [← String.toList_inj, String.toList_append, String.toList_ofList, String.toList_ofList, hbegin,
    List.dropWhile_cons_of_pos rfl, List.append_assoc, List.cons_append,
    List.dropWhile_cons_of_neg (by simpa using hc.2)]

/-- Without its query the address is cut where that begins. -/
theorem IsRoot.cutAt_target (hroot : base.IsRoot) (cs : List Char) (query : Option (List Char)) :
    cutAt (· == '?') (base.path.toList ++ escape isPathSafe cs ++
        (query.map fun q => '?' :: escape isQuerySafe q).getD []) =
      (base.path.toList ++ escape isPathSafe cs, query.map (escape isQuerySafe)) := by
  have hfree : ∀ d ∈ base.path.toList ++ escape isPathSafe cs, (d == '?') = false := by
    intro d hd
    refine beq_eq_false_iff_ne.mpr (ne_of_isPathSafe ?_ (.inr rfl))
    rcases List.mem_append.mp hd with hd | hd
    · exact hroot.safe d hd
    · exact isPathSafe_of_mem_escape hd
  rw [Text.cutAt_free_append hfree]
  cases query with
  | none => simp [cutAt]
  | some q => simp [cutAt]

/-- **Joining.** The path is put behind that of the root, and the dots are resolved. There is a query
if there has been one. -/
theorem IsRoot.of_join (hroot : base.IsRoot) (hc : BeginsPath c)
    (h : base.join (ofPath (c :: path) query fragment) = .ok v) :
    segments v.path.toList =
        resolveDots [] (base.front ++ (segments (c :: path)).map (escape isPathSafe)) ∧
      (v.query = none ↔ query = none) := by
  rw [hroot.join_ofPath hc, withTarget_eq_ok, String.toList_ofList, hroot.cutAt_target] at h
  obtain ⟨name, -, rfl⟩ := (ofParts_eq_ok hroot.scheme_toList_ne_nil).mp h.2
  dsimp only
  refine ⟨?_, by simp⟩
  have hfirst : (base.path.toList ++ escape isPathSafe (c :: path)).head? = some '/' := by
    rw [List.head?_append, hroot.first]
    rfl
  have hsafe : ∀ d ∈ base.path.toList ++ escape isPathSafe (c :: path), isPathSafe d = true := by
    intro d hd
    rcases List.mem_append.mp hd with hd | hd
    · exact hroot.safe d hd
    · exact isPathSafe_of_mem_escape hd
  -- all of the path is safe by now, so the segments are not escaped again
  have hkept : ∀ s ∈ resolveDots [] (segments (base.path.toList ++ escape isPathSafe (c :: path))),
      escape isPathSafe s = s := fun s hs =>
    escape_eq_self fun d hd =>
      hsafe d ((Text.mem_parts (mem_of_mem_resolveDots hs)).1 d hd).1
  rw [String.toList_ofList, segments_escape, segments_plainPath hfirst, List.map_congr_left hkept,
    List.map_id', hroot.segments_append, segments_escape]

/-- An address can be put behind a root unless that makes the path too long. -/
theorem IsRoot.exists_join (hroot : base.IsRoot) (hc : BeginsPath c) :
    (∃ v, base.join (ofPath (c :: path) none fragment) = .ok v) ↔
      (base.path.toList ++ escape isPathSafe (c :: path)).length ≤ maxLength := by
  obtain ⟨again, hagain⟩ := hroot.again
  obtain ⟨⟨hauthority, -, -, hfragment⟩, hparts⟩ := withTarget_eq_ok.mp hagain
  obtain ⟨name, hname, -⟩ := (ofParts_eq_ok hroot.scheme_toList_ne_nil).mp hparts
  rw [hroot.join_ofPath hc]
  simp only [withTarget_eq_ok, String.toList_ofList, hroot.cutAt_target, exists_and_left]
  refine ⟨fun h => h.1.2.1, fun hlength => ⟨⟨hauthority, hlength, Nat.zero_le _, hfragment⟩, ?_⟩⟩
  exact ⟨_, (ofParts_eq_ok hroot.scheme_toList_ne_nil).mpr ⟨name, hname, rfl⟩⟩

end Root

end DynamicForm.Url
