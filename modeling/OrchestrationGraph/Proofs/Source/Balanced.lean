import OrchestrationGraph.Source.Balanced

/-!
# Which span is cut out

`Brackets.Closes` says of a text alone, by counting its brackets, that it is a whole span. What is
cut out of a text is the shortest of its beginnings that is one, and nothing is cut out if none is
(`spanFrom?_shortest`). The scan goes by the sign of the depth where the count asks for zero: once a
required character was seen inside, no bracket leads below zero without stopping at zero
(`Inside`).
-/

namespace OrchestrationGraph.Source.Brackets

/-- The number of opening brackets less that of closing ones. -/
def depth (b : Brackets) (l : List Char) : Int := l.count b.opening - l.count b.closing

/-- A required character stands inside the brackets, an opening bracket counting as inside. -/
def HasRequired (b : Brackets) (l : List Char) : Prop :=
  ∃ before c after, l = before ++ c :: after ∧ c ∈ b.required ∧ 0 < b.depth (before ++ [c])

/-- The text is a span: its last bracket closes it, and what is required stands in it. -/
def Closes (b : Brackets) (l : List Char) : Prop :=
  l.getLast? = some b.closing ∧
    if b.required = [] then b.depth l ≤ 0 else b.depth l = 0 ∧ b.HasRequired l

/-- The shortest beginning of a text that has a property. -/
structure IsShortest (P : List Char → Prop) (l p : List Char) : Prop where
  isPrefix : p <+: l
  holds : P p
  le_length : ∀ q, q <+: l → P q → p.length ≤ q.length

theorem IsShortest.unique {P : List Char → Prop} {l p q : List Char} (hp : IsShortest P l p)
    (hq : IsShortest P l q) : p = q := by
  have le := hp.le_length q hq.isPrefix hq.holds
  have ge := hq.le_length p hp.isPrefix hp.holds
  rw [List.prefix_iff_eq_take.mp hp.isPrefix, List.prefix_iff_eq_take.mp hq.isPrefix,
    Nat.le_antisymm le ge]

/-- What follows a text that is its own shortest such beginning does not matter. -/
theorem IsShortest.append {P : List Char → Prop} {l : List Char} (shortest : IsShortest P l l)
    (later : List Char) : IsShortest P (l ++ later) l where
  isPrefix := List.prefix_append _ _
  holds := shortest.holds
  le_length q isPrefix holds := by
    refine Nat.not_lt.mp fun shorter => ?_
    have within : q <+: l :=
      List.prefix_of_prefix_length_le isPrefix (List.prefix_append _ _) (Nat.le_of_lt shorter)
    have := shortest.le_length q within holds
    omega

variable {b : Brackets} {before l p : List Char} {c : Char} {seen : Bool}

/-! ### One character -/

theorem depth_nil : b.depth [] = 0 := rfl

theorem depth_append : b.depth (before ++ l) = b.depth before + b.depth l := by
  unfold depth
  rw [List.count_append, List.count_append]
  omega

theorem depth_concat (different : b.opening ≠ b.closing) :
    b.depth (before ++ [c]) = b.after (b.depth before) c := by
  rw [depth_append]
  unfold depth after
  simp only [List.count_singleton, beq_iff_eq]
  by_cases opens : c = b.opening
  · simp [opens, different]
  · by_cases closes : c = b.closing
    · simp [closes, different.symm]
      omega
    · simp [opens, closes]

/-- A counter of 32 bits holds the depth of every beginning of a text of fewer than `2 ^ 31`
characters. -/
theorem depth_bounds (short : l.length < 2147483648) (isPrefix : p <+: l) :
    -2147483648 ≤ b.depth p ∧ b.depth p < 2147483648 := by
  have le := isPrefix.length_le
  have opens := p.count_le_length (a := b.opening)
  have closes := p.count_le_length (a := b.closing)
  unfold depth
  omega

theorem hasRequired_concat :
    b.HasRequired (l ++ [c]) ↔ b.HasRequired l ∨ c ∈ b.required ∧ 0 < b.depth (l ++ [c]) := by
  constructor
  · rintro ⟨before, d, after, split, required, inside⟩
    rcases List.eq_nil_or_concat after with rfl | ⟨after, e, rfl⟩
    · obtain ⟨rfl, rfl⟩ : l = before ∧ c = d := by simpa using split
      exact .inr ⟨required, inside⟩
    · have ends : l ++ [c] = before ++ d :: after ++ [e] := by rw [split]; simp
      obtain ⟨rfl, rfl⟩ := List.append_singleton_inj.mp ends
      exact .inl ⟨before, d, after, rfl, required, inside⟩
  · rintro (⟨before, d, after, rfl, required, inside⟩ | ⟨required, inside⟩)
    · exact ⟨before, d, after ++ [c], by simp, required, inside⟩
    · exact ⟨l, c, [], rfl, required, inside⟩

/-- What the scan remembers of the text behind it. -/
def Remembers (b : Brackets) (before : List Char) (seen : Bool) : Prop :=
  seen = true ↔ b.required = [] ∨ b.HasRequired before

/-- Where something is required and was seen, the scan is inside the brackets: it has not stopped
yet, and it cannot leave them without stopping. -/
def Inside (b : Brackets) (before : List Char) : Prop :=
  b.required ≠ [] → b.HasRequired before → 0 < b.depth before

theorem Remembers.step (different : b.opening ≠ b.closing) (memory : b.Remembers before seen)
    (c : Char) :
    b.Remembers (before ++ [c]) (b.seenAfter (b.after (b.depth before) c) seen c) := by
  unfold Remembers seenAfter at *
  rw [← depth_concat different, hasRequired_concat, Bool.or_eq_true, memory]
  simp only [Bool.and_eq_true, decide_eq_true_eq, List.contains_iff_mem, or_assoc]
  rw [and_comm]

theorem endsAt_iff (different : b.opening ≠ b.closing) (memory : b.Remembers before seen)
    (inside : b.Inside before) :
    b.endsAt (b.after (b.depth before) c) seen c = true ↔ b.Closes (before ++ [c]) := by
  have step : b.depth (before ++ [c]) = b.after (b.depth before) c := depth_concat different
  unfold endsAt Closes
  simp only [Bool.and_eq_true, decide_eq_true_eq, List.getLast?_concat, Option.some.injEq, ← step]
  constructor
  · rintro ⟨⟨⟨_, rfl⟩, low⟩, wasSeen⟩
    refine ⟨rfl, ?_⟩
    split
    · exact low
    · rename_i required
      have has := (memory.mp wasSeen).resolve_left required
      have above := inside required has
      -- One closing bracket leads from above zero to zero at most.
      have one : b.depth (before ++ [b.closing]) = b.depth before - 1 := by
        simp [step, after, different.symm]
      exact ⟨by omega, hasRequired_concat.mpr (.inl has)⟩
  · rintro ⟨rfl, closes⟩
    have isClosing : b.closing ≠ b.opening ∧ b.closing = b.closing := ⟨different.symm, rfl⟩
    split at closes
    · rename_i free
      exact ⟨⟨isClosing, closes⟩, memory.mpr (.inl free)⟩
    · obtain ⟨zero, has⟩ := closes
      refine ⟨⟨isClosing, by omega⟩, memory.mpr (.inr ?_)⟩
      refine (hasRequired_concat.mp has).resolve_right ?_
      rintro ⟨_, above⟩
      omega

theorem Inside.step (different : b.opening ≠ b.closing) (inside : b.Inside before)
    (goesOn : ¬ b.Closes (before ++ [c])) : b.Inside (before ++ [c]) := by
  intro required has
  rcases hasRequired_concat.mp has with earlier | ⟨_, above⟩
  · have above := inside required earlier
    have step : b.depth (before ++ [c]) = b.after (b.depth before) c := depth_concat different
    by_cases closes : c = b.closing
    · subst closes
      have one : b.depth (before ++ [b.closing]) = b.depth before - 1 := by
        simp [step, after, different.symm]
      have stays : b.depth (before ++ [b.closing]) ≠ 0 := by
        intro zero
        exact goesOn ⟨by simp, by rw [if_neg required]; exact ⟨zero, has⟩⟩
      omega
    · rw [step]
      unfold after
      split
      · omega
      · exact above
  · exact above

/-! ### The whole scan -/

/-- The scan stops at the first place where what it has passed is a span. -/
theorem isShortest_spanLength? (different : b.opening ≠ b.closing)
    (memory : b.Remembers before seen) (inside : b.Inside before) :
    match b.spanLength? (b.depth before) seen l with
    | none => ∀ q, q <+: l → q ≠ [] → ¬ b.Closes (before ++ q)
    | some n => n ≤ l.length ∧
      IsShortest (fun q => q ≠ [] ∧ b.Closes (before ++ q)) l (l.take n) := by
  induction l generalizing before seen with
  | nil =>
    intro q isPrefix nonempty
    exact absurd (List.prefix_nil.mp isPrefix) nonempty
  | cons c l ih =>
    have ends := endsAt_iff (c := c) different memory inside
    unfold spanLength?
    by_cases stops : b.Closes (before ++ [c])
    · rw [if_pos (ends.mpr stops)]
      refine ⟨by simp, by simp, ⟨by simp, by simpa using stops⟩, ?_⟩
      rintro q _ ⟨nonempty, _⟩
      simpa [Nat.one_le_iff_ne_zero] using nonempty
    · rw [if_neg (mt ends.mp stops)]
      have ih := ih (memory.step different c) (inside.step different stops)
      rw [depth_concat different] at ih
      -- A span that begins with `c` is longer than that, for `c` alone ends none.
      have longer : ∀ q, q ≠ [] → b.Closes (before ++ q) → ∀ d q', q = d :: q' → d = c →
          q' ≠ [] ∧ b.Closes (before ++ [c] ++ q') := by
        rintro _ _ closes d q' rfl rfl
        refine ⟨?_, by simpa using closes⟩
        rintro rfl
        exact stops closes
      cases found : b.spanLength? (b.after (b.depth before) c)
          (b.seenAfter (b.after (b.depth before) c) seen c) l with
      | none =>
        simp only [found, Option.map_none] at ih ⊢
        intro q isPrefix nonempty closes
        obtain rfl | ⟨q', rfl, isPrefix'⟩ := List.prefix_cons_iff.mp isPrefix
        · exact nonempty rfl
        · obtain ⟨nonempty', closes'⟩ := longer _ nonempty closes c q' rfl rfl
          exact ih q' isPrefix' nonempty' closes'
      | some n =>
        simp only [found, Option.map_some] at ih ⊢
        obtain ⟨le, isPrefix, ⟨_, closes⟩, least⟩ := ih
        refine ⟨by simpa using le, List.take_prefix _ _, ⟨by simp, by simpa using closes⟩, ?_⟩
        rintro q qPrefix ⟨nonempty, qCloses⟩
        obtain rfl | ⟨q', rfl, qPrefix'⟩ := List.prefix_cons_iff.mp qPrefix
        · exact absurd rfl nonempty
        · obtain ⟨nonempty', closes'⟩ := longer _ nonempty qCloses c q' rfl rfl
          have := least q' qPrefix' ⟨nonempty', closes'⟩
          simpa using this

theorem Closes.ne_nil (closes : b.Closes l) : l ≠ [] := by
  rintro rfl
  exact absurd closes.1 (by simp)

/-- Either a shortest span begins the text and is found, or none does and none is found. -/
theorem span?_cases (different : b.opening ≠ b.closing) (l : List Char) :
    (∃ p, b.span? l = some p ∧ IsShortest b.Closes l p) ∨
      b.span? l = none ∧ ∀ p, p <+: l → ¬ b.Closes p := by
  have memory : b.Remembers [] b.required.isEmpty := by
    unfold Remembers HasRequired
    simp
  have inside : b.Inside [] := by
    rintro _ ⟨before, c, after, split, _⟩
    simp at split
  have run := isShortest_spanLength? (l := l) different memory inside
  rw [depth_nil] at run
  unfold span?
  cases found : b.spanLength? 0 b.required.isEmpty l with
  | none =>
    rw [found] at run
    exact .inr ⟨rfl, fun p isPrefix closes => run p isPrefix closes.ne_nil closes⟩
  | some n =>
    rw [found] at run
    obtain ⟨_, isPrefix, ⟨_, closes⟩, least⟩ := run
    exact .inl ⟨l.take n, rfl, isPrefix, closes,
      fun q qPrefix qCloses => least q qPrefix ⟨qCloses.ne_nil, qCloses⟩⟩

theorem span?_eq_some_iff (different : b.opening ≠ b.closing) :
    b.span? l = some p ↔ IsShortest b.Closes l p := by
  rcases span?_cases different l with ⟨q, found, shortest⟩ | ⟨none, unclosed⟩
  · rw [found, Option.some.injEq]
    exact ⟨fun same => same ▸ shortest, shortest.unique⟩
  · simp only [none, reduceCtorEq, false_iff]
    exact fun shortest => unclosed p shortest.isPrefix shortest.holds

theorem span?_eq_none_iff (different : b.opening ≠ b.closing) :
    b.span? l = none ↔ ¬ ∃ p, p <+: l ∧ b.Closes p := by
  rcases span?_cases different l with ⟨q, found, shortest⟩ | ⟨none, unclosed⟩
  · simp only [found, reduceCtorEq, false_iff, Classical.not_not]
    exact ⟨q, shortest.isPrefix, shortest.holds⟩
  · simp only [none, true_iff]
    rintro ⟨p, isPrefix, closes⟩
    exact unclosed p isPrefix closes

/-- From a byte at which a character or the end lies, the shortest span is cut out if there is one;
from any other byte nothing is. Where a character is required, the span is balanced, however many
closing brackets stand in front. In a text of fewer than `2 ^ 31` characters no depth on the way
leaves the range of 32 bits. -/
theorem spanFrom?_shortest (b : Brackets) (different : b.opening ≠ b.closing) (start : Nat)
    (text : List Char) :
    ((¬ ∃ before tail, text = before ++ tail ∧ Text.byteLength before = start) →
      b.spanFrom? start text = none) ∧
    ∀ before tail, text = before ++ tail → Text.byteLength before = start →
      (∀ p, b.spanFrom? start text = some p ↔ IsShortest b.Closes tail p) ∧
      (b.spanFrom? start text = none ↔ ¬ ∃ p, p <+: tail ∧ b.Closes p) ∧
      (b.required ≠ [] → ∀ p, b.spanFrom? start text = some p → b.depth p = 0) ∧
      (text.length < 2147483648 →
        ∀ p, p <+: tail → -2147483648 ≤ b.depth p ∧ b.depth p < 2147483648) := by
  unfold spanFrom?
  refine ⟨?_, ?_⟩
  · intro noBoundary
    cases cut : Text.dropBytes? start text with
    | none => rfl
    | some tail =>
      obtain ⟨before, split, len⟩ := Text.eq_of_dropBytes? cut
      exact absurd ⟨before, tail, split, len⟩ noBoundary
  · rintro before tail rfl rfl
    rw [Text.dropBytes?_byteLength, Option.bind_some]
    refine ⟨fun p => span?_eq_some_iff different, span?_eq_none_iff different, ?_, ?_⟩
    · intro required p found
      have closes := ((span?_eq_some_iff different).mp found).holds.2
      rw [if_neg required] at closes
      exact closes.1
    · intro short p isPrefix
      rw [List.length_append] at short
      exact depth_bounds (by omega) isPrefix

/-- Braces around at least one line end. -/
def block : Brackets := ⟨'\x7b', '\x7d', ['\n']⟩

def strayBlock : List Char := "\x7d \x7b\x7b\n\x7d\x7d tail".toList

/-- The first closing bracket leads below zero, and the span still ends at zero. -/
theorem spanFrom?_shortest_stray : block.opening ≠ block.closing ∧
    block.required ≠ [] ∧ block.spanFrom? 0 strayBlock = some (strayBlock.take 6) ∧
      IsShortest block.Closes strayBlock (strayBlock.take 6) ∧
        block.depth (strayBlock.take 6) = 0 := by
  have different : block.opening ≠ block.closing := by decide
  have required : block.required ≠ [] := by decide
  have found : block.spanFrom? 0 strayBlock = some (strayBlock.take 6) := by decide +kernel
  obtain ⟨_, at_boundary⟩ := spanFrom?_shortest block different 0 strayBlock
  obtain ⟨spans, _, balanced, _⟩ := at_boundary [] strayBlock rfl rfl
  exact ⟨different, required, found, (spans _).mp found, balanced required _ found⟩

/-! ### Spans that begin with a bracket -/

/-- As many brackets close as open. -/
def Balances (b : Brackets) (l : List Char) : Prop := l ≠ [] ∧ b.depth l = 0

/-- The property begins to hold where a closing bracket leads down to zero, and holds nowhere
above. -/
structure ComesDown (b : Brackets) (P : List Char → Prop) : Prop where
  down : ∀ q, 0 < b.depth q → b.depth (q ++ [b.closing]) = 0 → P (q ++ [b.closing])
  low : ∀ q, P q → q ≠ [] ∧ b.depth q ≤ 0

theorem comesDown_closes (free : b.required = []) : b.ComesDown b.Closes where
  down q _ zero := by
    refine ⟨by simp, ?_⟩
    rw [if_pos free]
    omega
  low q closes := by
    have low := closes.2
    rw [if_pos free] at low
    exact ⟨closes.ne_nil, low⟩

theorem comesDown_balances : b.ComesDown b.Balances where
  down q _ zero := ⟨by simp, zero⟩
  low q balances := ⟨balances.1, by have := balances.2; omega⟩

/-- Only a closing bracket leads down, and from above it leads to zero at most. -/
theorem eq_closing_of_low (different : b.opening ≠ b.closing) (above : 0 < b.depth before)
    (low : b.depth (before ++ [c]) ≤ 0) : c = b.closing ∧ b.depth (before ++ [c]) = 0 := by
  have step : b.depth (before ++ [c]) = b.after (b.depth before) c := depth_concat different
  unfold after at step
  split at step
  · omega
  · split at step
    · rename_i closes
      exact ⟨closes, by omega⟩
    · omega

variable {P Q : List Char → Prop}

theorem depth_pos_of_never (different : b.opening ≠ b.closing) (comes : b.ComesDown P)
    (above : 0 < b.depth before) (never : ∀ q, q <+: l → ¬ P (before ++ q)) :
    0 < b.depth (before ++ l) := by
  induction l generalizing before with
  | nil => simpa using above
  | cons c l ih =>
    have next_above : 0 < b.depth (before ++ [c]) := by
      refine Int.not_le.mp fun low => ?_
      obtain ⟨rfl, zero⟩ := eq_closing_of_low different above low
      exact never [b.closing] (by simp) (comes.down before above zero)
    have later : ∀ q, q <+: l → ¬ P (before ++ [c] ++ q) := by
      intro q isPrefix
      simpa using never (c :: q) (List.cons_prefix_cons.mpr ⟨rfl, isPrefix⟩)
    simpa using ih next_above later

theorem depth_singleton (different : b.opening ≠ b.closing) : b.depth [b.opening] = 1 := by
  simp [depth, different]

/-- Where a text begins with an opening bracket, it does not matter by which of two such properties
its shortest beginning is sought. -/
theorem ComesDown.isShortest (different : b.opening ≠ b.closing) (hP : b.ComesDown P)
    (hQ : b.ComesDown Q) (shortest : IsShortest P (b.opening :: l) p) :
    IsShortest Q (b.opening :: l) p := by
  have one : b.depth [b.opening] = 1 := depth_singleton different
  have above : ∀ q, q <+: b.opening :: l → q ≠ [] → q.length < p.length → 0 < b.depth q := by
    intro q isPrefix nonempty shorter
    obtain rfl | ⟨tail, rfl, tailPrefix⟩ := List.prefix_cons_iff.mp isPrefix
    · exact absurd rfl nonempty
    · have starts : 0 < b.depth [b.opening] := by omega
      change 0 < b.depth ([b.opening] ++ tail)
      refine depth_pos_of_never different hP starts ?_
      intro r rPrefix holds
      have le := shortest.le_length (b.opening :: r)
        (List.cons_prefix_cons.mpr ⟨rfl, rPrefix.trans tailPrefix⟩) holds
      have := rPrefix.length_le
      simp only [List.length_cons] at le shorter
      omega
  obtain ⟨nonempty, low⟩ := hP.low p shortest.holds
  refine ⟨shortest.isPrefix, ?_, ?_⟩
  · obtain ⟨inner, c, rfl⟩ : ∃ inner c, p = inner ++ [c] :=
      ⟨_, _, (List.dropLast_concat_getLast nonempty).symm⟩
    have inside : 0 < b.depth inner := by
      refine above inner ((List.prefix_append _ _).trans shortest.isPrefix) ?_ (by simp)
      rintro rfl
      -- A single character that begins the text is its opening bracket.
      obtain ⟨rfl, -⟩ := List.cons_prefix_cons.mp shortest.isPrefix
      simp only [List.nil_append, one] at low
      omega
    obtain ⟨rfl, zero⟩ := eq_closing_of_low different inside low
    exact hQ.down inner inside zero
  · intro q isPrefix holds
    obtain ⟨nonempty', low'⟩ := hQ.low q holds
    refine Nat.not_lt.mp fun shorter => ?_
    have := above q isPrefix nonempty' shorter
    omega

/-- From an opening bracket on and with nothing required, the shortest balanced beginning is
cut out. -/
theorem span?_opening (different : b.opening ≠ b.closing) (free : b.required = []) :
    b.span? (b.opening :: l) = some p ↔ IsShortest b.Balances (b.opening :: l) p := by
  rw [span?_eq_some_iff different]
  exact ⟨(comesDown_closes free).isShortest different comesDown_balances,
    comesDown_balances.isShortest different (comesDown_closes free)⟩

/-- Every closing bracket has its opening one before it, and none stays open. -/
structure Nested (b : Brackets) (l : List Char) : Prop where
  floor : ∀ p, p <+: l → 0 ≤ b.depth p
  level : b.depth l = 0

theorem depth_opening (different : b.opening ≠ b.closing) :
    b.depth (b.opening :: l) = b.depth l + 1 := by
  rw [← List.singleton_append, depth_append, depth_singleton different, Int.add_comm]

/-- Between brackets stands a whole span exactly if the text between them is nested. -/
theorem isShortest_wrapped (different : b.opening ≠ b.closing) (free : b.required = []) :
    IsShortest b.Closes (b.opening :: (l ++ [b.closing])) (b.opening :: (l ++ [b.closing])) ↔
      b.Nested l := by
  have one : b.depth [b.closing] = -1 := by
    simp [depth, different.symm]
  have whole : b.depth (b.opening :: (l ++ [b.closing])) = b.depth l := by
    rw [depth_opening different, depth_append, one]
    omega
  constructor
  · intro shortest
    have floor : ∀ p, p <+: l → 0 ≤ b.depth p := by
      intro p isPrefix
      have above : 0 < b.depth [b.opening] := by
        rw [depth_singleton different]
        decide
      have deep : 0 < b.depth ([b.opening] ++ p) := by
        refine depth_pos_of_never different (comesDown_closes free) above fun q qPrefix closes => ?_
        have le := shortest.le_length (b.opening :: q)
          (List.cons_prefix_cons.mpr ⟨rfl, (qPrefix.trans isPrefix).trans (List.prefix_append _ _)⟩)
          closes
        have := (qPrefix.trans isPrefix).length_le
        simp only [List.length_cons, List.length_append, List.length_nil] at le
        omega
      rw [List.singleton_append, depth_opening different] at deep
      omega
    have low := shortest.holds.2
    rw [if_pos free, whole] at low
    exact ⟨floor, Int.le_antisymm low (floor l List.prefix_rfl)⟩
  · intro nested
    have ends : (b.opening :: l ++ [b.closing]).getLast? = some b.closing := List.getLast?_concat
    refine ⟨List.prefix_rfl, ⟨ends, ?_⟩, ?_⟩
    · rw [if_pos free]
      exact Int.le_of_eq (whole.trans nested.level)
    · intro q isPrefix closes
      refine Nat.not_lt.mp fun shorter => ?_
      obtain rfl | ⟨inner, rfl, within⟩ := List.prefix_cons_iff.mp isPrefix
      · exact closes.ne_nil rfl
      · have within : inner <+: l := by
          refine List.prefix_of_prefix_length_le within (List.prefix_append _ _) ?_
          simp only [List.length_cons, List.length_append, List.length_nil] at shorter
          omega
        have low := closes.2
        rw [if_pos free, depth_opening different] at low
        have := nested.floor inner within
        omega

end OrchestrationGraph.Source.Brackets
