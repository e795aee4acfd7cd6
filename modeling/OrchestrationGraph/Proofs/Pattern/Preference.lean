import OrchestrationGraph.Pattern.Search

/-!
# Which match is preferred

`Pattern.attempt` tries the ways through a pattern one after the other, the preferred first, and
goes back to the next where what follows does not lead on. The table of a pattern holds for each
place what is found so (`at?_table`), and the matches in a text are the first ways through from each
place (`allMatches_eq`).
-/

namespace OrchestrationGraph

namespace Table

/-- The preferred way to finish from place `i`, if there is one. -/
def at? (t : Table) (i : Nat) : Option Hit := t[i]?.join

@[simp] theorem at?_nil (i : Nat) : at? [] i = none := rfl

@[simp] theorem at?_cons_zero (k : Option Hit) (t : Table) : at? (k :: t) 0 = k := by
  simp [at?]

@[simp] theorem at?_cons_succ (k : Option Hit) (t : Table) (i : Nat) :
    at? (k :: t) (i + 1) = t.at? i := by
  simp [at?]

theorem at?_zero (t : Table) : t.at? 0 = t.head?.join := by
  cases t <;> rfl

theorem at?_drop (t : Table) (n i : Nat) : at? (t.drop n) i = t.at? (n + i) := by
  unfold at?
  rw [List.getElem?_drop]

theorem at?_of_length_le {t : Table} {i : Nat} (beyond : t.length ≤ i) : t.at? i = none := by
  unfold at?
  rw [List.getElem?_eq_none beyond]
  rfl

/-- A table over a text has a place before each character and one at the end. -/
theorem cons_of_length {c : Char} {text : List Char} {t : Table}
    (len : t.length = (c :: text).length + 1) :
    ∃ k rest, t = k :: rest ∧ rest.length = text.length + 1 := by
  cases t with
  | nil => simp at len
  | cons k rest => exact ⟨k, rest, rfl, by simpa using len⟩

/-! ### Lengths -/

theorem length_filterTails (test : List Char → Bool) (text : List Char) (t : Table) :
    (filterTails test text t).length = t.length := by
  induction t generalizing text with
  | nil => rfl
  | cons k t ih => simp [filterTails, ih]

theorem length_later (n : Nat) (t : Table) : (later n t).length = t.length := by
  simp only [later, List.length_append, List.length_drop, List.length_replicate]
  omega

theorem length_extend (cls : Char → Bool) (text : List Char) (t : Table) :
    (extend cls text t).length = t.length := by
  fun_induction extend cls text t with
  | case1 c text k t rest ih => simp [rest, ih]
  | case2 => rfl

theorem length_delay (cls : Char → Bool) (text : List Char) (t : Table) :
    (delay cls text t).length = t.length := by
  fun_induction delay cls text t with
  | case1 c text k t rest ih => simp [rest, ih]
  | case2 => rfl

theorem length_note (m : Mark) (i : Nat) (t : Table) : (note m i t).length = t.length := by
  induction t generalizing i with
  | nil => rfl
  | cons k t ih => simp [note, ih]

theorem length_filterEdges (word : Char → Bool) (prev : Option Char) (text : List Char) (t : Table) :
    (filterEdges word prev text t).length = t.length := by
  induction t generalizing prev text with
  | nil => rfl
  | cons k t ih => simp [filterEdges, ih]

theorem length_onlyFirst (t : Table) : (onlyFirst t).length = t.length := by
  cases t <;> simp [onlyFirst]

theorem length_onlyLast (t : Table) : (onlyLast t).length = t.length := by
  fun_induction onlyLast t with
  | case1 => rfl
  | case2 => rfl
  | case3 k t _ ih => simp [ih]

/-! ### What each operation holds -/

theorem at?_halt {n i : Nat} (inside : i ≤ n) : (halt n).at? i = some { stop := i } := by
  unfold at? halt
  rw [List.getElem?_map, List.getElem?_range (by omega)]
  rfl

theorem at?_filterTails (test : List Char → Bool) (taken after : List Char) (t : Table) :
    (filterTails test (taken ++ after) t).at? taken.length =
      if test after then t.at? taken.length else none := by
  induction taken generalizing t with
  | nil =>
    cases t with
    | nil => simp [filterTails]
    | cons k t => simp [filterTails]
  | cons c taken ih =>
    cases t with
    | nil => simp [filterTails]
    | cons k t => simpa [filterTails] using ih t

theorem at?_later (n i : Nat) (t : Table) : (later n t).at? i = t.at? (i + n) := by
  unfold later
  by_cases inside : i < t.length - n
  · unfold at?
    rw [List.getElem?_append_left (by simpa using inside), List.getElem?_drop, Nat.add_comm]
  · rw [at?_of_length_le (t := t) (by omega)]
    unfold at?
    rw [List.getElem?_append_right (by simpa using inside), List.getElem?_replicate]
    split <;> rfl

theorem at?_extend_append (cls : Char → Bool) (taken rest : List Char) (t : Table) :
    (extend cls (taken ++ rest) t).at? taken.length =
      (extend cls rest (t.drop taken.length)).at? 0 := by
  induction taken generalizing t with
  | nil => rfl
  | cons c taken ih =>
    cases t with
    | nil => simp [extend]
    | cons k t => simpa [extend] using ih t

theorem at?_delay_append (cls : Char → Bool) (taken rest : List Char) (t : Table) :
    (delay cls (taken ++ rest) t).at? taken.length =
      (delay cls rest (t.drop taken.length)).at? 0 := by
  induction taken generalizing t with
  | nil => rfl
  | cons c taken ih =>
    cases t with
    | nil => simp [delay]
    | cons k t => simpa [delay] using ih t

theorem at?_zipWith (s t : Table) (i : Nat) (len : s.length = t.length) :
    at? (s.zipWith Option.or t) i = (s.at? i).or (t.at? i) := by
  unfold at?
  by_cases inside : i < s.length
  · rw [List.getElem?_zipWith, List.getElem?_eq_getElem inside,
      List.getElem?_eq_getElem (len ▸ inside)]
    rfl
  · have at_s : s[i]? = none := List.getElem?_eq_none (by omega)
    have at_t : t[i]? = none := List.getElem?_eq_none (by omega)
    simp [List.getElem?_zipWith, at_s, at_t]

theorem at?_note (m : Mark) (i j : Nat) (t : Table) :
    (note m j t).at? i = (t.at? i).map fun h => { h with marks := (m, j + i) :: h.marks } := by
  induction t generalizing i j with
  | nil => rfl
  | cons k t ih =>
    cases i with
    | zero => simp [note]
    | succ i => simp [note, ih, Nat.add_assoc, Nat.add_comm 1]

theorem at?_filterEdges (word : Char → Bool) (before taken after : List Char) (t : Table) :
    (filterEdges word before.getLast? (taken ++ after) t).at? taken.length =
      if Pattern.isEdge word (before ++ taken).getLast? after.head? then t.at? taken.length
      else none := by
  induction taken generalizing before t with
  | nil =>
    cases t with
    | nil => simp [filterEdges]
    | cons k t => simp [filterEdges]
  | cons c taken ih =>
    cases t with
    | nil => simp [filterEdges]
    | cons k t => simpa [filterEdges] using ih (before ++ [c]) t

theorem at?_onlyFirst (t : Table) (i : Nat) :
    (onlyFirst t).at? i = if i = 0 then t.at? i else none := by
  cases t with
  | nil => simp [onlyFirst]
  | cons k t =>
    cases i with
    | zero => simp [onlyFirst]
    | succ i =>
      unfold onlyFirst at?
      rw [List.getElem?_cons_succ, List.getElem?_map]
      cases t[i]? <;> simp

theorem at?_onlyLast (t : Table) (i : Nat) :
    (onlyLast t).at? i = if i + 1 = t.length then t.at? i else none := by
  fun_induction onlyLast t generalizing i with
  | case1 => simp
  | case2 k =>
    cases i with
    | zero => simp
    | succ i => simp
  | case3 k t nonempty ih =>
    cases i with
    | zero =>
      have more : 0 + 1 ≠ (k :: t).length := by simpa using nonempty
      rw [if_neg more, Table.at?_cons_zero]
    | succ i => simp [ih]

end Table

/-- A text begins with a word in any letter case. -/
theorem beginsFolded_iff {wanted rest : List Char} :
    beginsFolded wanted rest = true ↔
      ∃ taken after, rest = taken ++ after ∧ taken.map foldCase = wanted.map foldCase := by
  induction wanted generalizing rest with
  | nil => simp [beginsFolded]
  | cons w wanted ih =>
    cases rest with
    | nil => simp [beginsFolded]
    | cons c rest =>
      simp only [beginsFolded, Bool.and_eq_true, beq_iff_eq, ih]
      constructor
      · rintro ⟨same, taken, after, rfl, folds⟩
        exact ⟨c :: taken, after, rfl, by simp [same, folds]⟩
      · rintro ⟨taken, after, split, folds⟩
        cases taken with
        | nil => simp at folds
        | cons d taken =>
          simp only [List.cons_append, List.cons.injEq] at split
          obtain ⟨rfl, rfl⟩ := split
          simp only [List.map_cons, List.cons.injEq] at folds
          exact ⟨folds.1.symm, taken, after, rfl, folds.2⟩

theorem length_eq_of_folds {wanted taken : List Char}
    (folds : taken.map foldCase = wanted.map foldCase) : taken.length = wanted.length := by
  simpa using congrArg List.length folds

namespace Pattern

/-- What is tried at a place, between the text before it and the rest. -/
abbrev Next := List Char → List Char → Option Hit

/-- As many characters of the class as possible, then fewer. -/
def longest (cls : Char → Bool) (next : Next) : Next
  | before, [] => next before []
  | before, c :: rest =>
    (if cls c then longest cls next (before ++ [c]) rest else none).or (next before (c :: rest))

/-- As few characters of the class as possible, then more. -/
def shortest (cls : Char → Bool) (next : Next) : Next
  | before, [] => next before []
  | before, c :: rest =>
    (next before (c :: rest)).or (if cls c then shortest cls next (before ++ [c]) rest else none)

/-- The first way through the pattern after which `next` leads on. -/
def attempt : Pattern → (next : Next) → Next
  | literal wanted, next, before, rest =>
    if wanted.isPrefixOf rest then next (before ++ wanted) (rest.drop wanted.length) else none
  | folded wanted, next, before, rest =>
    if beginsFolded wanted rest then
      next (before ++ rest.take wanted.length) (rest.drop wanted.length)
    else none
  | oneOf cls, next, before, rest =>
    match rest with
    | [] => none
    | c :: rest => if cls c then next (before ++ [c]) rest else none
  | many cls, next, before, rest => longest cls next before rest
  | few cls, next, before, rest => shortest cls next before rest
  | seq p q, next, before, rest => p.attempt (q.attempt next) before rest
  | either p q, next, before, rest =>
    (p.attempt next before rest).or (q.attempt next before rest)
  | mark m, next, before, rest =>
    (next before rest).map fun h => { h with marks := (m, before.length) :: h.marks }
  | edge word, next, before, rest =>
    if isEdge word before.getLast? rest.head? then next before rest else none
  | atStart, next, before, rest => if before = [] then next before rest else none
  | atEnd, next, before, rest => if rest = [] then next before rest else none

theorem length_table (p : Pattern) (text : List Char) (t : Table) :
    (p.table text t).length = t.length := by
  induction p generalizing t with
  | literal wanted => exact (Table.length_filterTails _ _ _).trans (Table.length_later _ _)
  | folded wanted => exact (Table.length_filterTails _ _ _).trans (Table.length_later _ _)
  | oneOf cls => exact (Table.length_filterTails _ _ _).trans (Table.length_later _ _)
  | many cls => exact Table.length_extend _ _ _
  | few cls => exact Table.length_delay _ _ _
  | seq p q ihp ihq => exact (ihp _).trans (ihq _)
  | either p q ihp ihq => simp [table, List.length_zipWith, ihp, ihq]
  | mark m => exact Table.length_note _ _ _
  | edge word => exact Table.length_filterEdges _ _ _ _
  | atStart => exact Table.length_onlyFirst _
  | atEnd => exact Table.length_onlyLast _

/-- The table holds for each place of the text what `next` finds there. -/
structure Holds (t : Table) (text : List Char) (next : Next) : Prop where
  length_eq : t.length = text.length + 1
  at?_eq : ∀ before rest, before ++ rest = text → t.at? before.length = next before rest

variable {t : Table} {text before rest : List Char} {next : Next}

theorem at?_extend {cls : Char → Bool} (len : t.length = rest.length + 1)
    (holds : ∀ run after, rest = run ++ after → t.at? run.length = next (before ++ run) after) :
    (Table.extend cls rest t).at? 0 = longest cls next before rest := by
  induction rest generalizing before t with
  | nil =>
    have same : Table.extend cls [] t = t := by unfold Table.extend; rfl
    rw [same, longest]
    simpa using holds [] [] rfl
  | cons c rest ih =>
    obtain ⟨k, t, rfl, tail⟩ := Table.cons_of_length len
    have here : k = next before (c :: rest) := by simpa using holds [] (c :: rest) rfl
    have ih : (Table.extend cls rest t).at? 0 = longest cls next (before ++ [c]) rest :=
      ih tail fun run after split => by simpa using holds (c :: run) after (by rw [split]; rfl)
    rw [Table.at?_zero] at ih
    simp only [Table.extend, Table.at?_cons_zero, longest, ih, here]
    split <;> simp

theorem at?_delay {cls : Char → Bool} (len : t.length = rest.length + 1)
    (holds : ∀ run after, rest = run ++ after → t.at? run.length = next (before ++ run) after) :
    (Table.delay cls rest t).at? 0 = shortest cls next before rest := by
  induction rest generalizing before t with
  | nil =>
    have same : Table.delay cls [] t = t := by unfold Table.delay; rfl
    rw [same, shortest]
    simpa using holds [] [] rfl
  | cons c rest ih =>
    obtain ⟨k, t, rfl, tail⟩ := Table.cons_of_length len
    have here : k = next before (c :: rest) := by simpa using holds [] (c :: rest) rfl
    have ih : (Table.delay cls rest t).at? 0 = shortest cls next (before ++ [c]) rest :=
      ih tail fun run after split => by simpa using holds (c :: run) after (by rw [split]; rfl)
    rw [Table.at?_zero] at ih
    simp only [Table.delay, Table.at?_cons_zero, shortest, ih, here]
    split <;> simp

/-- What stands in the table from a place on. -/
theorem Holds.drop (holds : Holds t (before ++ rest) next) :
    (t.drop before.length).length = rest.length + 1 ∧
      ∀ run after, rest = run ++ after →
        Table.at? (t.drop before.length) run.length = next (before ++ run) after := by
  have len := holds.length_eq
  refine ⟨by simp at len ⊢; omega, ?_⟩
  rintro run after rfl
  rw [Table.at?_drop, ← List.length_append]
  exact holds.at?_eq _ _ (by simp)

/-- The table of a pattern holds what trying the pattern finds. -/
theorem Holds.table (p : Pattern) (holds : Holds t text next) :
    Holds (p.table text t) text (p.attempt next) := by
  induction p generalizing t next with
  | literal wanted =>
    refine ⟨(length_table _ _ _).trans holds.length_eq, ?_⟩
    rintro before rest rfl
    simp only [Pattern.table, attempt, Table.at?_filterTails, Table.at?_later]
    split
    · rename_i begins
      obtain ⟨after, rfl⟩ := List.isPrefixOf_iff_prefix.mp begins
      rw [← List.length_append, List.drop_left]
      exact holds.at?_eq _ _ (by simp)
    · rfl
  | folded wanted =>
    refine ⟨(length_table _ _ _).trans holds.length_eq, ?_⟩
    rintro before rest rfl
    simp only [Pattern.table, attempt, Table.at?_filterTails, Table.at?_later]
    split
    · rename_i begins
      obtain ⟨taken, after, rfl, folds⟩ := beginsFolded_iff.mp begins
      rw [← length_eq_of_folds folds, ← List.length_append, List.take_left, List.drop_left]
      exact holds.at?_eq _ _ (by simp)
    · rfl
  | oneOf cls =>
    refine ⟨(length_table _ _ _).trans holds.length_eq, ?_⟩
    rintro before rest rfl
    simp only [Pattern.table, attempt, Table.at?_filterTails, Table.at?_later]
    cases rest with
    | nil => rfl
    | cons c rest =>
      have next_place := holds.at?_eq (before ++ [c]) rest (by simp)
      rw [List.length_append, List.length_singleton] at next_place
      simp [next_place]
  | many cls =>
    refine ⟨(length_table _ _ _).trans holds.length_eq, ?_⟩
    rintro before rest rfl
    obtain ⟨len, from_here⟩ := holds.drop
    exact (Table.at?_extend_append _ _ _ _).trans (at?_extend len from_here)
  | few cls =>
    refine ⟨(length_table _ _ _).trans holds.length_eq, ?_⟩
    rintro before rest rfl
    obtain ⟨len, from_here⟩ := holds.drop
    exact (Table.at?_delay_append _ _ _ _).trans (at?_delay len from_here)
  | seq p q ihp ihq => exact ihp (ihq holds)
  | either p q ihp ihq =>
    refine ⟨(length_table _ _ _).trans holds.length_eq, ?_⟩
    intro before rest split
    have first := ihp holds
    have second := ihq holds
    simp only [Pattern.table, attempt]
    rw [Table.at?_zipWith _ _ _ (first.length_eq.trans second.length_eq.symm),
      first.at?_eq before rest split, second.at?_eq before rest split]
  | mark m =>
    refine ⟨(length_table _ _ _).trans holds.length_eq, ?_⟩
    intro before rest split
    simp only [Pattern.table, attempt, Table.at?_note, holds.at?_eq before rest split, Nat.zero_add]
  | edge word =>
    refine ⟨(length_table _ _ _).trans holds.length_eq, ?_⟩
    rintro before rest rfl
    have at_place := Table.at?_filterEdges word [] before rest t
    rw [holds.at?_eq before rest rfl] at at_place
    exact at_place
  | atStart =>
    refine ⟨(length_table _ _ _).trans holds.length_eq, ?_⟩
    intro before rest split
    simp only [Pattern.table, attempt, Table.at?_onlyFirst, List.length_eq_zero_iff,
      holds.at?_eq before rest split]
  | atEnd =>
    refine ⟨(length_table _ _ _).trans holds.length_eq, ?_⟩
    rintro before rest rfl
    have last : before.length + 1 = t.length ↔ rest = [] := by
      rw [holds.length_eq, ← List.length_eq_zero_iff, List.length_append]
      omega
    simp only [Pattern.table, attempt, Table.at?_onlyLast, last, holds.at?_eq before rest rfl]

/-! ### Searching -/

/-- The match ends here. -/
def finish : Next := fun before _ => some { stop := before.length }

theorem holds_hits (p : Pattern) (text : List Char) :
    Holds (p.hits text) text (p.attempt finish) := by
  refine Holds.table p ⟨by simp [Table.halt], ?_⟩
  rintro before rest rfl
  exact Table.at?_halt (by simp)

/-- The preferred match from a place. -/
def matchAt? (p : Pattern) (before rest : List Char) : Option Match :=
  (p.attempt finish before rest).map fun h => ⟨before.length, h.stop, h.marks⟩

/-- The preferred matches from the places of `rest`, one after the other. -/
def matchesAlong (p : Pattern) : (before rest : List Char) → List Match
  | before, [] => (p.matchAt? before []).toList
  | before, c :: rest =>
    (p.matchAt? before (c :: rest)).toList ++ matchesAlong p (before ++ [c]) rest

theorem matchesFrom_cons (i : Nat) (k : Option Hit) (t : Table) :
    matchesFrom i (k :: t) =
      (k.map fun h => (⟨i, h.stop, h.marks⟩ : Match)).toList ++ matchesFrom (i + 1) t := by
  cases k <;> rfl

theorem matchesFrom_drop {p : Pattern} (holds : Holds t (before ++ rest) (p.attempt finish)) :
    matchesFrom before.length (t.drop before.length) = p.matchesAlong before rest := by
  induction rest generalizing before with
  | nil =>
    obtain ⟨len, from_here⟩ := holds.drop
    obtain ⟨k, only⟩ := List.length_eq_one_iff.mp len
    have here := from_here [] [] rfl
    simp only [only, List.append_nil, List.length_nil, Table.at?_cons_zero] at here
    rw [only, matchesFrom_cons, here, matchesFrom, List.append_nil, matchesAlong, matchAt?]
  | cons c rest ih =>
    obtain ⟨len, from_here⟩ := holds.drop
    obtain ⟨k, later, cut, _⟩ := Table.cons_of_length len
    have here := from_here [] (c :: rest) rfl
    simp only [cut, List.append_nil, List.length_nil, Table.at?_cons_zero] at here
    have later_eq : later = t.drop (before ++ [c]).length := by
      rw [List.length_append, ← List.drop_drop, cut]
      rfl
    have ih : matchesFrom (before ++ [c]).length (t.drop (before ++ [c]).length) =
        p.matchesAlong (before ++ [c]) rest := ih (by simpa using holds)
    rw [← later_eq, List.length_append] at ih
    rw [cut, matchesFrom_cons, here, matchesAlong, matchAt?, ← ih]
    rfl

/-- The matches found in a text are the preferred ones from all its places. -/
theorem allMatches_eq (p : Pattern) (text : List Char) :
    p.allMatches text = p.matchesAlong [] text := by
  have whole : matchesFrom ([] : List Char).length ((p.hits text).drop ([] : List Char).length) =
      p.matchesAlong [] text := matchesFrom_drop (holds_hits p text)
  simpa [allMatches] using whole

end Pattern

end OrchestrationGraph
