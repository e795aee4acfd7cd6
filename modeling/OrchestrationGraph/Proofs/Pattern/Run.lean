import OrchestrationGraph.Pattern.Spelling
import OrchestrationGraph.Proofs.Pattern.Preference
import OrchestrationGraph.Proofs.Text.Run

/-!
# Ways through runs

Where a pattern goes over a run of a class, its way is settled by the text: as many as possible take
the whole run if what follows leads on from its end (`longest_run`), or else give back what lies
behind the last place from which it does (`longest_back`), and as few as possible take the first part
from which it leads on (`shortest_first`). Matches that begin with a character found nowhere else in
them do not overlap (`findAll_eq`).
-/

namespace OrchestrationGraph.Pattern

open Text (Run EndsRun)

variable {cls : Char → Bool} {next : Next} {before run more after rest : List Char} {h : Hit}

theorem longest_endsRun (stops : EndsRun cls after) :
    longest cls next before after = next before after := by
  cases after with
  | nil => rfl
  | cons c after => simp [longest, Text.endsRun_cons.mp stops]

theorem longest_none (stops : EndsRun cls after)
    (stuck : ∀ n m, more = n ++ m → next (before ++ n) (m ++ after) = none) :
    longest cls next before (more ++ after) = none := by
  induction more generalizing before with
  | nil => simpa using (longest_endsRun stops).trans (by simpa using stuck [] [] rfl)
  | cons c more ih =>
    have here : next before (c :: (more ++ after)) = none := by simpa using stuck [] (c :: more) rfl
    have later : longest cls next (before ++ [c]) (more ++ after) = none := by
      refine ih fun n m split => ?_
      simpa using stuck (c :: n) m (by rw [split]; rfl)
    rw [List.cons_append, longest, later, here]
    split <;> rfl

/-- As many as possible give back what lies behind the last place from which `next` leads on. -/
theorem longest_back (isRun : Run cls run) (stops : EndsRun cls after)
    (stuck : ∀ n m, more = n ++ m → n ≠ [] → next (before ++ run ++ n) (m ++ after) = none)
    (leads : next (before ++ run) (more ++ after) = some h) :
    longest cls next before (run ++ (more ++ after)) = some h := by
  induction run generalizing before with
  | nil =>
    rw [List.append_nil] at leads
    cases more with
    | nil => exact (longest_endsRun stops).trans leads
    | cons c more =>
      have later : longest cls next (before ++ [c]) (more ++ after) = none := by
        refine longest_none stops fun n m split => ?_
        simpa using stuck (c :: n) m (by rw [split]; rfl) (by simp)
      have leads : next before (c :: (more ++ after)) = some h := leads
      rw [List.nil_append, List.cons_append, longest, later, leads]
      split <;> rfl
  | cons c run ih =>
    obtain ⟨isCls, isRun⟩ := Text.run_cons.mp isRun
    have further : longest cls next (before ++ [c]) (run ++ (more ++ after)) = some h :=
      ih isRun (by simpa using stuck) (by simpa using leads)
    rw [List.cons_append, longest, if_pos isCls, further, Option.some_or]

theorem longest_run (isRun : Run cls run) (stops : EndsRun cls after)
    (leads : next (before ++ run) after = some h) :
    longest cls next before (run ++ after) = some h := by
  show longest cls next before (run ++ ([] ++ after)) = some h
  refine longest_back isRun stops (fun n m split nonempty => ?_) leads
  exact absurd (List.append_eq_nil_iff.mp split.symm).1 nonempty

theorem shortest_first (isRun : Run cls run)
    (first : ∀ n m, run = n ++ m → m ≠ [] → next (before ++ n) (m ++ after) = none)
    (leads : next (before ++ run) after = some h) :
    shortest cls next before (run ++ after) = some h := by
  induction run generalizing before with
  | nil =>
    rw [List.append_nil] at leads
    cases after with
    | nil => exact leads
    | cons c after => rw [List.nil_append, shortest, leads, Option.some_or]
  | cons c run ih =>
    obtain ⟨isCls, isRun⟩ := Text.run_cons.mp isRun
    have here : next before (c :: (run ++ after)) = none := by
      simpa using first [] (c :: run) rfl (by simp)
    have further : shortest cls next (before ++ [c]) (run ++ after) = some h := by
      refine ih isRun ?_ (by simpa using leads)
      intro n m split nonempty
      simpa using first (c :: n) m (by rw [split]; rfl) nonempty
    rw [List.cons_append, shortest, here, Option.none_or, if_pos isCls, further]

/-! ### Pieces -/

theorem attempt_text (s : String) :
    (text s).attempt next before (s.toList ++ rest) = next (before ++ s.toList) rest := by
  simp [text, attempt, List.isPrefixOf_iff_prefix]

theorem attempt_text_none {s : String} (begins : ¬ s.toList <+: rest) :
    (text s).attempt next before rest = none := by
  simp [text, attempt, List.isPrefixOf_iff_prefix, begins]

/-- No text is found where its first character cannot stand. -/
theorem attempt_text_endsRun {s : String} (begins : ∃ c ∈ s.toList.head?, cls c = true)
    (stops : EndsRun cls rest) : (text s).attempt next before rest = none := by
  refine attempt_text_none ?_
  rintro ⟨further, rfl⟩
  obtain ⟨c, first, isCls⟩ := begins
  have refused : cls c = false := stops c (by simp [List.head?_append, Option.mem_def.mp first])
  exact absurd isCls (by simp [refused])

theorem attempt_anyCase_none {s : String} (other : beginsFolded s.toList rest = false) :
    (anyCase s).attempt next before rest = none := by
  simp [anyCase, attempt, other]

theorem attempt_blanks (isRun : Run Text.isBlank run) (stops : EndsRun Text.isBlank after)
    (leads : next (before ++ run) after = some h) :
    blanks.attempt next before (run ++ after) = some h :=
  longest_run isRun stops leads

theorem attempt_blanks_none (stops : EndsRun Text.isBlank after) :
    blanks.attempt next before after = next before after :=
  longest_endsRun stops

theorem attempt_either_left {p q : Pattern} (leads : p.attempt next before rest = some h) :
    (either p q).attempt next before rest = some h := by
  rw [attempt, leads, Option.some_or]

theorem attempt_either_right {p q : Pattern} (stuck : p.attempt next before rest = none)
    (leads : q.attempt next before rest = some h) : (either p q).attempt next before rest = some h := by
  rw [attempt, stuck, Option.none_or, leads]

theorem attempt_optional_some {p : Pattern} (leads : p.attempt next before rest = some h) :
    (optional p).attempt next before rest = some h :=
  attempt_either_left leads

theorem attempt_optional_none {p : Pattern} (stuck : p.attempt next before rest = none) :
    (optional p).attempt next before rest = next before rest := by
  simp [optional, nothing, attempt, stuck]

theorem attempt_mark (m : Mark) (leads : next before rest = some h) :
    (mark m).attempt next before rest =
      some { h with marks := (m, before.length) :: h.marks } := by
  rw [attempt, leads]
  rfl

theorem attempt_oneOrMore_back (nonempty : run ≠ []) (isRun : Run cls run) (stops : EndsRun cls after)
    (stuck : ∀ n m, more = n ++ m → n ≠ [] → next (before ++ run ++ n) (m ++ after) = none)
    (leads : next (before ++ run) (more ++ after) = some h) :
    (oneOrMore cls).attempt next before (run ++ (more ++ after)) = some h := by
  obtain ⟨c, run, rfl⟩ := List.exists_cons_of_ne_nil nonempty
  obtain ⟨isCls, isRun⟩ := Text.run_cons.mp isRun
  have many : longest cls next (before ++ [c]) (run ++ (more ++ after)) = some h :=
    longest_back isRun stops (by simpa using stuck) (by simpa using leads)
  exact (if_pos isCls).trans many

theorem attempt_oneOrMore (nonempty : run ≠ []) (isRun : Run cls run) (stops : EndsRun cls after)
    (leads : next (before ++ run) after = some h) :
    (oneOrMore cls).attempt next before (run ++ after) = some h := by
  show (oneOrMore cls).attempt next before (run ++ ([] ++ after)) = some h
  refine attempt_oneOrMore_back nonempty isRun stops (fun n m split nonempty => ?_) leads
  exact absurd (List.append_eq_nil_iff.mp split.symm).1 nonempty

theorem attempt_oneOrMore_none (stops : EndsRun cls rest) :
    (oneOrMore cls).attempt next before rest = none := by
  cases rest with
  | nil => rfl
  | cons c rest => exact if_neg (by simp [Text.endsRun_cons.mp stops])

theorem attempt_oneOrFew (nonempty : run ≠ []) (isRun : Run cls run)
    (first : ∀ n m, run = n ++ m → n ≠ [] → m ≠ [] → next (before ++ n) (m ++ after) = none)
    (leads : next (before ++ run) after = some h) :
    (oneOrFew cls).attempt next before (run ++ after) = some h := by
  obtain ⟨c, run, rfl⟩ := List.exists_cons_of_ne_nil nonempty
  obtain ⟨isCls, isRun⟩ := Text.run_cons.mp isRun
  have few : shortest cls next (before ++ [c]) (run ++ after) = some h := by
    refine shortest_first isRun ?_ (by simpa using leads)
    intro n m split more
    simpa using first (c :: n) m (by rw [split]; rfl) (by simp) more
  exact (if_pos isCls).trans few

theorem attempt_group {name : String} {p : Pattern}
    (leads : p.attempt ((mark (.closes name)).attempt next) before rest = some h) :
    (group name p).attempt next before rest =
      some { h with marks := (.opens name, before.length) :: h.marks } :=
  attempt_mark _ leads

theorem attempt_group_none {name : String} {p : Pattern}
    (stuck : p.attempt ((mark (.closes name)).attempt next) before rest = none) :
    (group name p).attempt next before rest = none :=
  Option.map_eq_none_iff.mpr stuck

/-! ### Overlaps -/

/-- All matches begin with `opening` and go on without it. -/
def OpensWith (opening : Char) (p : Pattern) : Prop :=
  ∀ before rest m, p.matchAt? before rest = some m →
    ∃ taken after, rest = opening :: taken ++ after ∧ opening ∉ taken ∧
      m.stop = before.length + 1 + taken.length

theorem OpensWith.matchAt?_none {opening : Char} {p : Pattern} (opens : p.OpensWith opening)
    (other : rest.head? ≠ some opening) : p.matchAt? before rest = none := by
  cases found : p.matchAt? before rest with
  | none => rfl
  | some m =>
    obtain ⟨_, _, rfl, _⟩ := opens before rest m found
    exact absurd rfl other

theorem withoutOverlaps_matchesAlong {opening : Char} {p : Pattern} (opens : p.OpensWith opening)
    {free : Nat} (skipped : opening ∉ rest.take (free - before.length)) :
    withoutOverlaps free (p.matchesAlong before rest) = p.matchesAlong before rest := by
  induction rest generalizing before free with
  | nil =>
    rw [matchesAlong, opens.matchAt?_none (by simp)]
    rfl
  | cons c rest ih =>
    have later : opening ∉ rest.take (free - (before ++ [c]).length) := by
      intro here
      refine skipped (List.mem_of_mem_drop (i := 1) ?_)
      rw [List.drop_take]
      simpa [Nat.sub_sub] using here
    rw [matchesAlong]
    cases found : p.matchAt? before (c :: rest) with
    | none => exact ih later
    | some m =>
      obtain ⟨taken, after, split, fresh, stop⟩ := opens before (c :: rest) m found
      obtain ⟨rfl, rfl⟩ := List.cons.inj split
      have start : m.start = before.length := by
        unfold matchAt? at found
        obtain ⟨h, _, rfl⟩ := Option.map_eq_some_iff.mp found
        rfl
      have isFree : ¬ m.start < free := by
        intro inside
        refine skipped ?_
        obtain ⟨n, ahead⟩ : ∃ n, free - before.length = n + 1 :=
          ⟨free - before.length - 1, by omega⟩
        rw [ahead]
        exact List.mem_cons_self
      have next_free : c ∉ (taken ++ after).take (m.stop - (before ++ [c]).length) := by
        rw [stop, List.length_append, List.length_singleton, Nat.add_sub_cancel_left,
          List.take_left]
        exact fresh
      rw [Option.toList_some, List.singleton_append, withoutOverlaps, if_neg isFree, ih next_free]

theorem findAll_eq {opening : Char} {p : Pattern} (opens : p.OpensWith opening)
    (text : List Char) : p.findAll text = p.matchesAlong [] text := by
  unfold findAll
  rw [allMatches_eq]
  exact withoutOverlaps_matchesAlong opens (by simp)

end OrchestrationGraph.Pattern
