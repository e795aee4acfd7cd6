import OrchestrationGraph.Proofs.Pattern.Way

/-!
# The first match

What is found in a text is the preferred match from the first place that has one
(`find?_eq_some_iff`), and nothing is found exactly where the pattern does not occur
(`find?_eq_none_iff`).
-/

namespace OrchestrationGraph.Pattern

variable {p : Pattern} {before rest text : List Char} {m : Match}

theorem matchAt?_eq_none_iff : p.matchAt? before rest = none ↔
    ∀ taken after, rest = taken ++ after → ¬ p.Accepts before taken after := by
  rw [matchAt?, Option.map_eq_none_iff, ← Option.not_isSome_iff_eq_none, isSome_attempt_finish]
  simp only [not_exists, not_and]

theorem head?_matchesAlong : (p.matchesAlong before rest).head? = some m ↔
    ∃ gap rest', rest = gap ++ rest' ∧ p.matchAt? (before ++ gap) rest' = some m ∧
      ∀ gap' more, gap = gap' ++ more → more ≠ [] →
        p.matchAt? (before ++ gap') (more ++ rest') = none := by
  induction rest generalizing before with
  | nil =>
    rw [matchesAlong, Option.head?_toList]
    constructor
    · intro here
      exact ⟨[], [], rfl, by simpa using here, by simp⟩
    · rintro ⟨gap, rest', split, found, _⟩
      obtain ⟨rfl, rfl⟩ := List.nil_eq_append_iff.mp split
      simpa using found
  | cons c rest ih =>
    rw [matchesAlong, List.head?_append, Option.head?_toList]
    constructor
    · intro first
      rcases Option.or_eq_some_iff.mp first with here | ⟨missed, later⟩
      · exact ⟨[], c :: rest, rfl, by simpa using here, by simp⟩
      · obtain ⟨gap, rest', rfl, found, earlier⟩ := ih.mp later
        refine ⟨c :: gap, rest', rfl, by simpa using found, ?_⟩
        intro gap' more split nonempty
        cases gap' with
        | nil =>
          obtain rfl : c :: gap = more := split
          simpa using missed
        | cons d gap' =>
          obtain ⟨rfl, rfl⟩ := List.cons.inj split
          simpa using earlier gap' more rfl nonempty
    · rintro ⟨gap, rest', split, found, earlier⟩
      cases gap with
      | nil =>
        obtain rfl : c :: rest = rest' := split
        rw [List.append_nil] at found
        rw [found, Option.some_or]
      | cons d gap =>
        obtain ⟨rfl, tails⟩ := List.cons.inj split
        obtain rfl : rest = gap ++ rest' := tails
        have missed : p.matchAt? before (c :: (gap ++ rest')) = none := by
          simpa using earlier [] (c :: gap) rfl (by simp)
        rw [missed, Option.none_or, ih]
        refine ⟨gap, rest', rfl, by simpa using found, ?_⟩
        rintro gap' more rfl nonempty
        simpa using earlier (c :: gap') more rfl nonempty

theorem find?_eq_some_iff : p.find? text = some m ↔
    ∃ before rest, text = before ++ rest ∧ p.matchAt? before rest = some m ∧
      ∀ earlier more, before = earlier ++ more → more ≠ [] →
        p.matchAt? earlier (more ++ rest) = none := by
  rw [find?, allMatches_eq, head?_matchesAlong]
  rfl

theorem find?_eq_none_iff : p.find? text = none ↔ ¬ p.Occurs text := by
  rw [find?, List.head?_eq_none_iff, List.eq_nil_iff_forall_not_mem]
  constructor
  · rintro none ⟨before, taken, after, rfl, accepts⟩
    cases found : p.matchAt? before (taken ++ after) with
    | none => exact matchAt?_eq_none_iff.mp found taken after rfl accepts
    | some m => exact none m (mem_allMatches.mpr ⟨before, _, List.append_assoc _ _ _, found⟩)
  · rintro nowhere m here
    obtain ⟨before, rest, rfl, found⟩ := mem_allMatches.mp here
    obtain ⟨h, tried, -⟩ := Option.map_eq_some_iff.mp found
    obtain ⟨taken, after, rfl, accepts⟩ := isSome_attempt_finish.mp (Option.isSome_of_eq_some tried)
    exact nowhere ⟨before, taken, after, (List.append_assoc _ _ _).symm, accepts⟩

/-- The first match starts at the first place from which the pattern takes a text, and stops behind
a text that it takes there. -/
theorem exists_of_find? (found : p.find? text = some m) :
    ∃ before taken after, text = before ++ taken ++ after ∧ p.Accepts before taken after ∧
      m.start = before.length ∧ m.stop = (before ++ taken).length ∧
      ∀ before' taken' after', text = before' ++ taken' ++ after' →
        p.Accepts before' taken' after' → before.length ≤ before'.length := by
  obtain ⟨before, rest, rfl, here, earlier⟩ := find?_eq_some_iff.mp found
  obtain ⟨h, tried, rfl⟩ := Option.map_eq_some_iff.mp here
  obtain ⟨taken, after, rfl, accepts, stop⟩ := stop_of_attempt tried
  refine ⟨before, taken, after, (List.append_assoc _ _ _).symm, accepts, rfl, stop, ?_⟩
  intro before' taken' after' split accepts'
  refine Nat.not_lt.mp fun shorter => ?_
  rw [List.append_assoc] at split
  obtain ⟨more, rfl⟩ : before' <+: before :=
    List.prefix_of_prefix_length_le ⟨_, split.symm⟩ (List.prefix_append _ _) (Nat.le_of_lt shorter)
  rw [List.append_assoc] at split
  have nonempty : more ≠ [] := by
    rintro rfl
    simp at shorter
  exact matchAt?_eq_none_iff.mp (earlier before' more rfl nonempty) taken' after'
    (List.append_cancel_left split) accepts'

end OrchestrationGraph.Pattern
