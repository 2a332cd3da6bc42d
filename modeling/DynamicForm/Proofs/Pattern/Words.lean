import DynamicForm.Proofs.Pattern.Spans

/-!
# What patterns read

Where a part takes up a stretch of a text, a word stands. For the parts that do not look around, the
words say all: it does not matter where they stand.

Languages are easier to compute with than relations between positions: a sequence of parts has the
words of the first followed by those of the second, and a repetition has the words of its rounds in
a row. The restriction is that a part must not look at what stands around the stretch that it takes
up. It is a matter of each lemma to see that it does not, and there are no lemmas for the parts that
do.

- `Reads`: a word stands in a text from one position to another.
- `Node.HasWords`: a part takes up exactly the stretches where one of its words stands. There is one
  lemma for each kind of part.
-/

namespace DynamicForm.Pattern

/-- A word stands in a text from one position to another. -/
def Reads (text : Array Char) : Nat → List Char → Nat → Prop
  | i, [], j => j = i
  | i, c :: cs, j => text[i]? = some c ∧ Reads text (i + 1) cs j

variable {text : Array Char} {i j n : Nat} {c : Char} {cs ds : List Char}

/-- Of two words in a row, the second begins where the first one ends. -/
theorem reads_append :
    Reads text i (cs ++ ds) j ↔ ∃ m, Reads text i cs m ∧ Reads text m ds j := by
  induction cs generalizing i with
  | nil => simp [Reads]
  | cons c cs ih => simp only [List.cons_append, Reads, ih, and_assoc, exists_and_left]

/-- A word takes up as many positions as it has characters. -/
theorem Reads.eq_add (h : Reads text i cs j) : j = i + cs.length := by
  induction cs generalizing i with
  | nil => exact h
  | cons c cs ih =>
    have := ih h.2
    rw [List.length_cons]
    omega

/-- A word that stands in a text does not reach beyond it. -/
theorem Reads.le_size (h : Reads text i cs j) (hi : i ≤ text.size) : j ≤ text.size := by
  induction cs generalizing i with
  | nil => exact h ▸ hi
  | cons c cs ih => exact ih h.2 (Array.getElem?_eq_some_iff.mp h.1).1

/-- What stands at the beginning of a text is a beginning of it. -/
theorem reads_zero (l : List Char) :
    Reads l.toArray 0 cs j ↔ cs <+: l ∧ j = cs.length := by
  -- stated for any position, so that the induction on the word can move on
  have hdrop : ∀ i, Reads l.toArray i cs j ↔ cs <+: l.drop i ∧ j = i + cs.length := by
    induction cs with
    | nil => simp [Reads]
    | cons c cs ih =>
      intro i
      rw [Reads, ih, List.getElem?_toArray, List.length_cons, Nat.add_right_comm, Nat.add_assoc]
      constructor
      · rintro ⟨hc, hrest, hj⟩
        obtain ⟨hi, rfl⟩ := List.getElem?_eq_some_iff.mp hc
        rw [List.drop_eq_getElem_cons hi]
        exact ⟨List.cons_prefix_cons.mpr ⟨rfl, hrest⟩, hj⟩
      · rintro ⟨⟨after, hafter⟩, hj⟩
        have hc : l[i]? = some c := by
          rw [← List.head?_drop, ← hafter, List.cons_append, List.head?_cons]
        refine ⟨hc, ⟨after, ?_⟩, hj⟩
        rw [← List.tail_drop, ← hafter, List.cons_append, List.tail_cons]
  simpa using hdrop 0

/-- The words of a part: it takes up exactly the stretches where one of them stands. -/
def Node.HasWords (node : Node) (W : List Char → Prop) : Prop :=
  ∀ ⦃text : Array Char⦄ ⦃i j : Nat⦄, i ≤ text.size →
    (node.Spans text i j ↔ ∃ cs, W cs ∧ Reads text i cs j)

namespace Node

variable {a b body : Node} {A B : List Char → Prop} {test : CharTest}

theorem HasWords.congr (h : a.HasWords A) (hAB : ∀ cs, A cs ↔ B cs) : a.HasWords B := by
  intro text i j hi
  simp only [h hi, hAB]

/-- A test accepts the character that stands at a position. -/
theorem acceptsAt_iff :
    test.acceptsAt text i = true ↔ ∃ c, test.accepts c = true ∧ text[i]? = some c := by
  unfold CharTest.acceptsAt
  cases text[i]? with
  | none => simp
  | some c => simp

theorem one_hasWords : (one test).HasWords fun cs => ∃ c, test.accepts c = true ∧ cs = [c] := by
  intro text i j hi
  simp only [Spans, acceptsAt_iff]
  constructor
  · rintro ⟨⟨c, hc, hat⟩, rfl⟩
    exact ⟨[c], ⟨c, hc, rfl⟩, hat, rfl⟩
  · rintro ⟨_, ⟨c, hc, rfl⟩, hat, rfl⟩
    exact ⟨⟨c, hc, hat⟩, rfl⟩

/-- A word of the first part, and then one of the second. -/
theorem seq_hasWords (ha : a.HasWords A) (hb : b.HasWords B) :
    (seq a b).HasWords fun cs => ∃ xs ys, A xs ∧ B ys ∧ cs = xs ++ ys := by
  intro text i j hi
  constructor
  · rintro ⟨m, hm, hj⟩
    obtain ⟨xs, hxs, hm⟩ := (ha hi).mp hm
    obtain ⟨ys, hys, hj⟩ := (hb (hm.le_size hi)).mp hj
    exact ⟨xs ++ ys, ⟨xs, ys, hxs, hys, rfl⟩, reads_append.mpr ⟨m, hm, hj⟩⟩
  · rintro ⟨_, ⟨xs, ys, hxs, hys, rfl⟩, hread⟩
    obtain ⟨m, hm, hj⟩ := reads_append.mp hread
    exact ⟨m, (ha hi).mpr ⟨xs, hxs, hm⟩, (hb (hm.le_size hi)).mpr ⟨ys, hys, hj⟩⟩

/-- A part that begins with the text takes up a beginning of it. -/
theorem HasWords.spans_zero (h : a.HasWords A) {l : List Char} :
    a.Spans l.toArray 0 j ↔ ∃ cs, A cs ∧ cs <+: l ∧ j = cs.length := by
  simp only [h (Nat.zero_le _), reads_zero]

theorem repeats_hasWords (ha : a.HasWords A) (hi : i ≤ text.size) :
    Repeats (a.Spans text) n i j ↔
      ∃ words : List (List Char), words.length = n ∧ (∀ w ∈ words, A w) ∧
        Reads text i words.flatten j := by
  induction n generalizing i with
  | zero =>
    simp only [Repeats, List.length_eq_zero_iff]
    constructor
    · intro h
      exact ⟨[], rfl, by simp, h⟩
    · rintro ⟨_, rfl, -, h⟩
      exact h
  | succ n ih =>
    constructor
    -- each round reads a word, and the words are read one after the other
    · rintro ⟨m, hm, hrest⟩
      obtain ⟨w, hw, hm⟩ := (ha hi).mp hm
      obtain ⟨words, rfl, hwords, hrest⟩ := (ih (hm.le_size hi)).mp hrest
      exact ⟨w :: words, rfl, List.forall_mem_cons.mpr ⟨hw, hwords⟩,
        reads_append.mpr ⟨m, hm, hrest⟩⟩
    · rintro ⟨words, hlength, hwords, hread⟩
      obtain ⟨w, words, rfl⟩ := List.exists_cons_of_length_eq_add_one hlength
      obtain ⟨hw, hwords⟩ := List.forall_mem_cons.mp hwords
      obtain ⟨m, hm, hrest⟩ := reads_append.mp hread
      exact ⟨m, (ha hi).mpr ⟨w, hw, hm⟩,
        (ih (hm.le_size hi)).mpr ⟨words, Nat.succ.inj hlength, hwords, hrest⟩⟩

/-- A repetition takes up any allowed number of words in a row. It makes no difference in which
order their number is tried. -/
theorem loop_hasWords {mode : LoopMode} {least : Nat} {most : Option Nat} (ha : a.HasWords A) :
    (loop mode least most a).HasWords fun cs => ∃ words : List (List Char),
      least ≤ words.length ∧ (∀ m ∈ most, words.length ≤ m) ∧ (∀ w ∈ words, A w) ∧
        cs = words.flatten := by
  intro text i j hi
  simp only [Spans, repeats_hasWords ha hi]
  constructor
  · rintro ⟨_, hleast, hmost, words, rfl, hwords, hread⟩
    exact ⟨_, ⟨words, hleast, hmost, hwords, rfl⟩, hread⟩
  · rintro ⟨_, ⟨words, hleast, hmost, hwords, rfl⟩, hread⟩
    exact ⟨_, hleast, hmost, words, rfl, hwords, hread⟩

/-- A row of characters that are accepted is a word. -/
theorem row_reads :
    (∀ d < n, test.acceptsAt text (i + d) = true) ↔
      ∃ cs, cs.length = n ∧ (∀ c ∈ cs, test.accepts c = true) ∧ Reads text i cs (i + n) := by
  induction n generalizing i with
  | zero => exact ⟨fun _ => ⟨[], rfl, nofun, rfl⟩, fun _ _ => nofun⟩
  | succ n ih =>
    -- the first character, and those from the next position on
    have hshift : (∀ d < n + 1, test.acceptsAt text (i + d) = true) ↔
        test.acceptsAt text i = true ∧ ∀ d < n, test.acceptsAt text (i + 1 + d) = true := by
      simp only [Nat.add_assoc i 1, Nat.add_comm 1]
      exact Nat.forall_lt_succ_left
    rw [hshift, ih, acceptsAt_iff]
    constructor
    · rintro ⟨⟨c, hc, hat⟩, cs, rfl, hcs, hread⟩
      refine ⟨c :: cs, rfl, List.forall_mem_cons.mpr ⟨hc, hcs⟩, hat, ?_⟩
      rwa [Nat.add_right_comm] at hread
    · rintro ⟨cs, hlength, hcs, hread⟩
      obtain ⟨c, cs, rfl⟩ := List.exists_cons_of_length_eq_add_one hlength
      obtain ⟨hc, hcs⟩ := List.forall_mem_cons.mp hcs
      refine ⟨⟨c, hc, hread.1⟩, cs, Nat.succ.inj hlength, hcs, ?_⟩
      rw [Nat.add_right_comm]
      exact hread.2

/-- A repetition of one character takes up any allowed number of characters. What comes next must
not restrict where it ends. -/
theorem loopOne_hasWords {mode : LoopMode} {least : Nat} {most : Option Nat} {next : Lead}
    (hnext : ∀ text i, next.admitsExact text i = true) :
    (loopOne mode least most test next).HasWords fun cs => least ≤ cs.length ∧
      (∀ m ∈ most, cs.length ≤ m) ∧ ∀ c ∈ cs, test.accepts c = true := by
  intro text i j hi
  simp only [Spans, hnext, row_reads, true_and]
  constructor
  · rintro ⟨_, hleast, hmost, -, ⟨cs, rfl, hcs, hread⟩, rfl⟩
    exact ⟨cs, ⟨hleast, hmost, hcs⟩, hread⟩
  · rintro ⟨cs, ⟨hleast, hmost, hcs⟩, hread⟩
    have hj := hread.eq_add
    have hroom := hread.le_size hi
    subst hj
    exact ⟨_, hleast, hmost, hroom, ⟨cs, rfl, hcs, hread⟩, rfl⟩

end Node

end DynamicForm.Pattern
