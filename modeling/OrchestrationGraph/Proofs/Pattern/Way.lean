import OrchestrationGraph.Proofs.Pattern.Occurrence
import OrchestrationGraph.Proofs.Pattern.Run

/-!
# The way of a match

A way that was found through a pattern takes a text that the pattern accepts and then goes the way of
what follows; only marks are put in front (`way_of_attempt`). Of all matches in a text, those left
out because of an overlap add nothing if they noted the same places as the match they overlap with
(`exists_withoutOverlaps`).
-/

namespace OrchestrationGraph.Pattern

variable {next : Next} {before rest : List Char} {h : Hit}

/-- The pattern notes no place. -/
def unmarked : Pattern → Bool
  | mark _ => false
  | seq p q | either p q => p.unmarked && q.unmarked
  | literal _ | folded _ | oneOf _ | many _ | few _ | edge _ | atStart | atEnd => true

theorem attempt_anyCase {s : String} {word : List Char} (spells : Spells s word) :
    (anyCase s).attempt next before (word ++ rest) = next (before ++ word) rest := by
  have begins : beginsFolded s.toList (word ++ rest) = true :=
    beginsFolded_iff.mpr ⟨word, rest, rfl, spells⟩
  rw [anyCase, attempt, if_pos begins, ← length_eq_of_folds spells, List.take_left, List.drop_left]

theorem way_of_longest {cls : Char → Bool} (found : longest cls next before rest = some h) :
    ∃ run after, rest = run ++ after ∧ (∀ c ∈ run, cls c = true) ∧
      next (before ++ run) after = some h := by
  induction rest generalizing before with
  | nil => exact ⟨[], [], rfl, by simp, by simpa [longest] using found⟩
  | cons c rest ih =>
    unfold longest at found
    rcases Option.or_eq_some_iff.mp found with further | ⟨_, here⟩
    · split at further
      · rename_i isCls
        obtain ⟨run, after, rfl, all, leads⟩ := ih further
        exact ⟨c :: run, after, rfl, by simpa [isCls] using all, by simpa using leads⟩
      · exact absurd further (by simp)
    · exact ⟨[], c :: rest, rfl, by simp, by simpa using here⟩

theorem way_of_shortest {cls : Char → Bool} (found : shortest cls next before rest = some h) :
    ∃ run after, rest = run ++ after ∧ (∀ c ∈ run, cls c = true) ∧
      next (before ++ run) after = some h := by
  induction rest generalizing before with
  | nil => exact ⟨[], [], rfl, by simp, by simpa [shortest] using found⟩
  | cons c rest ih =>
    unfold shortest at found
    rcases Option.or_eq_some_iff.mp found with here | ⟨_, further⟩
    · exact ⟨[], c :: rest, rfl, by simp, by simpa using here⟩
    · split at further
      · rename_i isCls
        obtain ⟨run, after, rfl, all, leads⟩ := ih further
        exact ⟨c :: run, after, rfl, by simpa [isCls] using all, by simpa using leads⟩
      · exact absurd further (by simp)

/-- A way through a pattern takes a text that the pattern accepts, stops where the way of `next`
from there stops, and is that way itself if the pattern notes no place. -/
theorem way_of_attempt {p : Pattern} (found : p.attempt next before rest = some h) :
    ∃ taken after h', rest = taken ++ after ∧ p.Accepts before taken after ∧
      next (before ++ taken) after = some h' ∧ h.stop = h'.stop ∧ (p.unmarked = true → h = h') := by
  induction p generalizing next before rest h with
  | literal wanted =>
    unfold attempt at found
    split at found
    · rename_i begins
      obtain ⟨after, rfl⟩ := List.isPrefixOf_iff_prefix.mp begins
      exact ⟨wanted, after, h, rfl, rfl, by simpa using found, rfl, fun _ => rfl⟩
    · exact absurd found (by simp)
  | folded wanted =>
    unfold attempt at found
    split at found
    · rename_i begins
      obtain ⟨taken, after, rfl, folds⟩ := beginsFolded_iff.mp begins
      rw [← length_eq_of_folds folds, List.take_left, List.drop_left] at found
      exact ⟨taken, after, h, rfl, folds, found, rfl, fun _ => rfl⟩
    · exact absurd found (by simp)
  | oneOf cls =>
    unfold attempt at found
    cases rest with
    | nil => exact absurd found (by simp)
    | cons c rest =>
      dsimp only at found
      split at found
      · rename_i isCls
        exact ⟨[c], rest, h, rfl, ⟨c, rfl, isCls⟩, found, rfl, fun _ => rfl⟩
      · exact absurd found (by simp)
  | many cls =>
    obtain ⟨run, after, split, all, leads⟩ := way_of_longest found
    exact ⟨run, after, h, split, all, leads, rfl, fun _ => rfl⟩
  | few cls =>
    obtain ⟨run, after, split, all, leads⟩ := way_of_shortest found
    exact ⟨run, after, h, split, all, leads, rfl, fun _ => rfl⟩
  | seq p q ihp ihq =>
    obtain ⟨first, middle, h₁, rfl, accepts, leads, stop, same⟩ := ihp found
    obtain ⟨second, after, h₂, rfl, accepts', leads', stop', same'⟩ := ihq leads
    refine ⟨first ++ second, after, h₂, by simp, ⟨first, second, rfl, accepts, accepts'⟩,
      by simpa using leads', stop.trans stop', fun plain => ?_⟩
    obtain ⟨plain, plain'⟩ := Bool.and_eq_true_iff.mp plain
    exact (same plain).trans (same' plain')
  | either p q ihp ihq =>
    rcases Option.or_eq_some_iff.mp found with found | ⟨_, found⟩
    · obtain ⟨taken, after, h', split, accepts, leads, stop, same⟩ := ihp found
      exact ⟨taken, after, h', split, .inl accepts, leads, stop,
        fun plain => same (Bool.and_eq_true_iff.mp plain).1⟩
    · obtain ⟨taken, after, h', split, accepts, leads, stop, same⟩ := ihq found
      exact ⟨taken, after, h', split, .inr accepts, leads, stop,
        fun plain => same (Bool.and_eq_true_iff.mp plain).2⟩
  | mark m =>
    obtain ⟨h', leads, rfl⟩ := Option.map_eq_some_iff.mp found
    exact ⟨[], rest, h', rfl, rfl, by simpa using leads, rfl, by simp [unmarked]⟩
  | edge word =>
    unfold attempt at found
    split at found
    · rename_i isEdge
      exact ⟨[], rest, h, rfl, ⟨rfl, isEdge⟩, by simpa using found, rfl, fun _ => rfl⟩
    · exact absurd found (by simp)
  | atStart =>
    unfold attempt at found
    split at found
    · rename_i first
      exact ⟨[], rest, h, rfl, ⟨rfl, first⟩, by simpa using found, rfl, fun _ => rfl⟩
    · exact absurd found (by simp)
  | atEnd =>
    unfold attempt at found
    split at found
    · rename_i last
      exact ⟨[], rest, h, rfl, ⟨rfl, last⟩, by simpa using found, rfl, fun _ => rfl⟩
    · exact absurd found (by simp)

theorem way_of_unmarked {p : Pattern} (plain : p.unmarked = true)
    (found : p.attempt next before rest = some h) :
    ∃ taken after, rest = taken ++ after ∧ p.Accepts before taken after ∧
      next (before ++ taken) after = some h := by
  obtain ⟨taken, after, h', split, accepts, leads, _, same⟩ := way_of_attempt found
  exact ⟨taken, after, split, accepts, same plain ▸ leads⟩

/-- A match stops behind the text that the pattern takes. -/
theorem stop_of_attempt {p : Pattern} (found : p.attempt finish before rest = some h) :
    ∃ taken after, rest = taken ++ after ∧ p.Accepts before taken after ∧
      h.stop = (before ++ taken).length := by
  obtain ⟨taken, after, h', split, accepts, leads, stop, _⟩ := way_of_attempt found
  obtain rfl := Option.some.inj leads
  exact ⟨taken, after, split, accepts, stop⟩

theorem start_of_matchAt? {p : Pattern} {m : Match} (found : p.matchAt? before rest = some m) :
    m.start = before.length := by
  obtain ⟨_, _, rfl⟩ := Option.map_eq_some_iff.mp found
  rfl

/-! ### The matches of a text -/

variable {p : Pattern} {m : Match}

theorem mem_matchesAlong : m ∈ p.matchesAlong before rest ↔
    ∃ gap rest', rest = gap ++ rest' ∧ p.matchAt? (before ++ gap) rest' = some m := by
  induction rest generalizing before with
  | nil =>
    rw [matchesAlong, Option.mem_toList]
    constructor
    · intro here
      exact ⟨[], [], rfl, by simpa using here⟩
    · rintro ⟨gap, rest', split, found⟩
      obtain ⟨rfl, rfl⟩ := List.nil_eq_append_iff.mp split
      simpa using found
  | cons c rest ih =>
    rw [matchesAlong, List.mem_append, ih, Option.mem_toList]
    constructor
    · rintro (here | ⟨gap, rest', rfl, later⟩)
      · exact ⟨[], c :: rest, rfl, by simpa using here⟩
      · exact ⟨c :: gap, rest', rfl, by simpa using later⟩
    · rintro ⟨gap, rest', split, found⟩
      cases gap with
      | nil =>
        obtain rfl : c :: rest = rest' := split
        exact .inl (by simpa using found)
      | cons d gap =>
        obtain ⟨rfl, rfl⟩ := List.cons.inj split
        exact .inr ⟨gap, rest', rfl, by simpa using found⟩

theorem mem_allMatches {text : List Char} : m ∈ p.allMatches text ↔
    ∃ before rest, text = before ++ rest ∧ p.matchAt? before rest = some m := by
  rw [allMatches_eq, mem_matchesAlong]
  rfl

/-- What holds of any match and a later one holds throughout the list of matches. -/
theorem pairwise_allMatches {R : Match → Match → Prop}
    (related : ∀ before gap rest m m', gap ≠ [] → p.matchAt? before (gap ++ rest) = some m →
      p.matchAt? (before ++ gap) rest = some m' → R m m') (text : List Char) :
    (p.allMatches text).Pairwise R := by
  have along : ∀ rest before, (p.matchesAlong before rest).Pairwise R := by
    intro rest
    induction rest with
    | nil =>
      intro before
      cases found : p.matchAt? before [] <;> simp [matchesAlong, found]
    | cons c rest ih =>
      intro before
      rw [matchesAlong, List.pairwise_append]
      refine ⟨by cases found : p.matchAt? before (c :: rest) <;> simp, ih _, ?_⟩
      intro m first m' later
      obtain ⟨gap, rest', rfl, found'⟩ := mem_matchesAlong.mp later
      exact related before (c :: gap) rest' m m' (by simp) (Option.mem_toList.mp first)
        (by simpa using found')
  exact allMatches_eq p text ▸ along text []

/-! ### Overlaps -/

theorem sublist_withoutOverlaps (free : Nat) (l : List Match) : (withoutOverlaps free l).Sublist l := by
  induction l generalizing free with
  | nil => exact .slnil
  | cons m l ih =>
    unfold withoutOverlaps
    split
    · exact (ih free).cons m
    · exact (ih m.stop).cons_cons m

/-- If overlapping matches note the same places, those that are kept note all that any notes. -/
theorem exists_withoutOverlaps {l : List Match}
    (shared : l.Pairwise fun m m' => m'.start < m.stop → m'.marks = m.marks) {free : Nat}
    (here : m ∈ l) (isFree : free ≤ m.start) : ∃ m' ∈ withoutOverlaps free l, m'.marks = m.marks := by
  induction l generalizing free with
  | nil => exact absurd here List.not_mem_nil
  | cons first l ih =>
    obtain ⟨with_first, shared⟩ := List.pairwise_cons.mp shared
    unfold withoutOverlaps
    split
    · rename_i overlaps
      rcases List.mem_cons.mp here with rfl | here
      · omega
      · exact ih shared here isFree
    · rcases List.mem_cons.mp here with rfl | here
      · exact ⟨m, List.mem_cons_self, rfl⟩
      · by_cases overlaps : m.start < first.stop
        · exact ⟨first, List.mem_cons_self, (with_first m here overlaps).symm⟩
        · have isFree : first.stop ≤ m.start := by omega
          obtain ⟨m', kept, same⟩ := ih shared here isFree
          exact ⟨m', List.mem_cons_of_mem first kept, same⟩

theorem exists_findAll {text : List Char}
    (shared : (p.allMatches text).Pairwise fun m m' => m'.start < m.stop → m'.marks = m.marks)
    (here : m ∈ p.allMatches text) : ∃ m' ∈ p.findAll text, m'.marks = m.marks :=
  exists_withoutOverlaps shared here (Nat.zero_le _)

theorem mem_allMatches_of_findAll {text : List Char} (here : m ∈ p.findAll text) :
    m ∈ p.allMatches text :=
  (sublist_withoutOverlaps 0 _).subset here

theorem withoutOverlaps_nil {free : Nat} {l : List Match} (overlaps : ∀ m ∈ l, m.start < free) :
    withoutOverlaps free l = [] := by
  induction l with
  | nil => rfl
  | cons m l ih =>
    rw [List.forall_mem_cons] at overlaps
    rw [withoutOverlaps, if_pos overlaps.1, ih overlaps.2]

/-- A match at the start of a text is the only one if none begins where it stops or later. -/
theorem findAll_single {text : List Char}
    (found : p.matchAt? [] text = some m)
    (others : ∀ before rest, text = before ++ rest → m.stop ≤ before.length →
      p.matchAt? before rest = none) : p.findAll text = [m] := by
  have start : m.start = 0 := start_of_matchAt? found
  obtain ⟨later, along, within⟩ : ∃ later, p.matchesAlong [] text = m :: later ∧
      ∀ m' ∈ later, m' ∈ p.allMatches text := by
    rw [allMatches_eq]
    cases text with
    | nil => exact ⟨[], by rw [matchesAlong, found]; rfl, List.forall_mem_nil _⟩
    | cons c text =>
      refine ⟨p.matchesAlong [c] text, by rw [matchesAlong, found]; rfl, fun m' here => ?_⟩
      rw [matchesAlong]
      exact List.mem_append_right _ here
  have overlaps : ∀ m' ∈ later, m'.start < m.stop := by
    intro m' here
    obtain ⟨before, rest, split, found'⟩ := mem_allMatches.mp (within m' here)
    rw [start_of_matchAt? found']
    refine Nat.lt_of_not_le fun behind => ?_
    exact Option.some_ne_none m' (found'.symm.trans (others before rest split behind))
  rw [findAll, allMatches_eq, along, withoutOverlaps, if_neg (by omega),
    withoutOverlaps_nil overlaps]

end OrchestrationGraph.Pattern
