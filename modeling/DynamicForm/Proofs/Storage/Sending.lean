import DynamicForm.Proofs.Web.Joining
import DynamicForm.Storage.Exchange

/-!
# Where requests are sent

The path of a request has something in it that comes from outside, and words around that. The words
stay where they are. What stands between them may end the path or lead out of the words.

- `Refers` says of a request what there is between the words of its path.
- `dispatch_eq_ok`: when a request is sent, and where.
- `Refers.segments_eq`: the path to which it is sent.
-/

namespace DynamicForm.Storage

open Url (segments escape isPathSafe IsDots IsWord slashed)
open Text (cutAt)

/-- The body of the request can be written, if there is one. -/
def Request.IsWritable (r : Request) : Prop := ∀ body, r.body = some body → body.isWritable = true

/-- The path of the request consists of words and of the reference in between. -/
structure Refers (r : Request) (w : List Char) (lead trail : List (List Char)) : Prop where
  path : r.path.toList = slashed lead ++ '/' :: (w ++ slashed trail)
  query : r.query = none
  leading : ∀ s ∈ lead, IsWord s
  trailing : ∀ s ∈ trail, IsWord s
  begins : ∃ c s others, lead = (c :: s) :: others

variable {base : Url} {r : Request} {sent : Dispatch} {w : List Char} {lead trail : List (List Char)}

/-- A request without a query is sent to its path behind the base address, if both can be read and
put together and the body can be written. -/
theorem dispatch_eq_ok (hquery : r.query = none) : r.dispatch base = .ok sent ↔
    ∃ v, (∃ u, Url.read r.path = .ok u ∧ base.join u = .ok v) ∧ r.IsWritable ∧
      sent = ⟨r.method, v, r.body⟩ := by
  obtain ⟨method, path, query, body⟩ := r
  obtain rfl : query = none := hquery
  -- the address is read and joined first, and both have faults of their own
  have haddress : ∀ v, ((Url.read path).bind base.join).mapError CallError.address = .ok v ↔
      ∃ u, Url.read path = .ok u ∧ base.join u = .ok v := by
    intro v
    refine Iff.trans ?_ Url.bind_eq_ok
    change _ ↔ (Url.read path).bind base.join = .ok v
    cases (Url.read path).bind base.join with
    | error e => exact iff_of_false nofun nofun
    | ok a => exact ⟨fun h => congrArg Except.ok (Except.ok.inj h),
        fun h => congrArg Except.ok (Except.ok.inj h)⟩
  have hnone : ∀ v : Url, (Except.ok ⟨method, v, body⟩ : Except CallError Dispatch) = .ok sent ↔
      sent = ⟨method, v, body⟩ :=
    fun v => ⟨fun h => (Except.ok.inj h).symm, fun h => congrArg Except.ok h.symm⟩
  refine Url.bind_eq_ok.trans ?_
  simp only [haddress]
  refine exists_congr fun v => and_congr_right fun _ => ?_
  cases body with
  | none => exact (hnone v).trans (and_iff_right nofun).symm
  | some body =>
    change (if body.isWritable then Except.ok _ else .error _ : Except CallError Dispatch) = _ ↔ _
    split
    · next hwritable =>
      refine (hnone v).trans (and_iff_right ?_).symm
      intro b hb
      exact Option.some.inj hb ▸ hwritable
    · next hunwritable => exact iff_of_false nofun fun h => hunwritable (h.1 body rfl)

/-- The path begins with a slash, and it is cut nowhere before the reference. -/
theorem Refers.exists_path_eq (hr : Refers r w lead trail) :
    ∃ c cs, Url.BeginsPath c ∧ (∀ rest, slashed lead ++ '/' :: rest = '/' :: c :: (cs ++ rest)) ∧
      r.path = String.ofList ('/' :: c :: (cs ++ (w ++ slashed trail))) ∧
      ∀ d ∈ '/' :: c :: cs, isPathSafe d = true := by
  obtain ⟨c, s, others, rfl⟩ := hr.begins
  have hword := (List.forall_mem_cons.mp hr.leading).1
  have hlead : ∀ rest, slashed ((c :: s) :: others) ++ '/' :: rest =
      '/' :: c :: (s ++ slashed others ++ ['/'] ++ rest) := by
    intro rest
    simp [slashed]
  refine ⟨c, s ++ slashed others ++ ['/'], ⟨(hword.1 c List.mem_cons_self).1,
    (hword.1 c List.mem_cons_self).2.1⟩, hlead, ?_, fun d hd => ?_⟩
  · rw [← String.toList_inj, String.toList_ofList, hr.path, hlead]
  · have hd' : d ∈ slashed ((c :: s) :: others) ++ ['/'] := by
      rw [hlead, List.append_nil]
      exact hd
    rcases List.mem_append.mp hd' with hd | hd
    · exact Url.isPathSafe_of_mem_slashed hr.leading hd
    · exact List.mem_singleton.mp hd ▸ by decide

/-- **Where a request is sent.** The path ends where the reference has the sign of a fragment or of a
query, and dots are resolved. -/
theorem Refers.segments_eq (hr : Refers r w lead trail) (hroot : base.IsRoot)
    (h : r.dispatch base = .ok sent) :
    segments sent.url.path.toList = Url.resolveDots [] (base.front ++ lead ++
        (segments (cutAt (· == '?') (cutAt (· == '#') (w ++ slashed trail)).1).1).map
          (escape isPathSafe)) ∧
      (sent.url.query = none ↔
        (cutAt (· == '?') (cutAt (· == '#') (w ++ slashed trail)).1).2 = none) := by
  obtain ⟨c, cs, hc, hlead, hpath, hsafe⟩ := hr.exists_path_eq
  have hcut : ∀ stop : Char, stop = '#' ∨ stop = '?' → ∀ rest, cutAt (· == stop) (cs ++ rest) =
      (cs ++ (cutAt (· == stop) rest).1, (cutAt (· == stop) rest).2) := by
    intro stop hstop rest
    refine Text.cutAt_free_append fun d hd => beq_eq_false_iff_ne.mpr ?_
    exact Url.ne_of_isPathSafe (hsafe d (List.mem_cons_of_mem _ (List.mem_cons_of_mem _ hd))) hstop
  obtain ⟨v, ⟨u, hread, hjoin⟩, -, rfl⟩ := (dispatch_eq_ok hr.query).mp h
  rw [hpath, Url.read_path hc, hcut '#' (.inl rfl)] at hread
  dsimp only at hread
  rw [hcut '?' (.inr rfl)] at hread
  obtain ⟨-, -, rfl⟩ := hread
  obtain ⟨hsegments, hquery⟩ := hroot.of_join hc hjoin
  refine ⟨?_, hquery⟩
  -- the words in front are whole segments, so the cut goes through what comes behind them
  have hparts : ∀ rest, segments (c :: (cs ++ rest)) = lead ++ segments rest := by
    intro rest
    have hslashed := Url.segments_slashed_append hr.leading rest
    rw [hlead] at hslashed
    exact (List.cons.inj hslashed).2
  have hkept : ∀ t ∈ lead, escape isPathSafe t = id t := fun t ht => (hr.leading t ht).escape_eq
  rw [hsegments, hparts, List.map_append, List.map_congr_left hkept, List.map_id, List.append_assoc]

end DynamicForm.Storage
