import OrchestrationGraph.Pattern.Spelling
import OrchestrationGraph.Proofs.Pattern.Preference

/-!
# What a search finds

A pattern occurs in a text by `occursIn` exactly if it may take some part of the text
(`occursIn_iff`). Some way through a pattern leads on just where the pattern accepts a piece of text
after which what is tried next leads on (`isSome_attempt`). What the small patterns accept that
others are made of comes last.
-/

namespace OrchestrationGraph.Pattern

/-! ### Ways through a pattern -/

variable {next : Next} {before rest : List Char}

theorem isSome_longest {cls : Char → Bool} :
    (longest cls next before rest).isSome = true ↔
      ∃ run after, rest = run ++ after ∧ (∀ c ∈ run, cls c = true) ∧
        (next (before ++ run) after).isSome = true := by
  induction rest generalizing before with
  | nil =>
    constructor
    · intro leads
      exact ⟨[], [], rfl, by simp, by simpa [longest] using leads⟩
    · rintro ⟨run, after, split, _, leads⟩
      obtain ⟨rfl, rfl⟩ := List.nil_eq_append_iff.mp split
      simpa [longest] using leads
  | cons c rest ih =>
    unfold longest
    rw [Option.isSome_or, Bool.or_eq_true]
    constructor
    · rintro (further | here)
      · split at further
        · rename_i isCls
          obtain ⟨run, after, rfl, all, leads⟩ := ih.mp further
          exact ⟨c :: run, after, rfl, by simpa [isCls] using all, by simpa using leads⟩
        · exact absurd further (by simp)
      · exact ⟨[], c :: rest, rfl, by simp, by simpa using here⟩
    · rintro ⟨run, after, split, all, leads⟩
      cases run with
      | nil =>
        obtain rfl : c :: rest = after := split
        exact .inr (by simpa using leads)
      | cons d run =>
        obtain ⟨rfl, rfl⟩ := List.cons.inj split
        rw [if_pos (all c List.mem_cons_self)]
        exact .inl (ih.mpr ⟨run, after, rfl, fun x hx => all x (List.mem_cons_of_mem c hx),
          by simpa using leads⟩)

/-- Preference aside, as few as possible come to the same places as many as possible. -/
theorem isSome_shortest {cls : Char → Bool} :
    (shortest cls next before rest).isSome = (longest cls next before rest).isSome := by
  induction rest generalizing before with
  | nil => rfl
  | cons c rest ih =>
    unfold shortest longest
    rw [Option.isSome_or, Option.isSome_or, Bool.or_comm]
    split <;> simp [ih]

/-- A way through the pattern leads on where the pattern accepts a piece of text after which `next`
leads on. -/
theorem isSome_attempt {p : Pattern} :
    (p.attempt next before rest).isSome = true ↔
      ∃ taken after, rest = taken ++ after ∧ p.Accepts before taken after ∧
        (next (before ++ taken) after).isSome = true := by
  induction p generalizing next before rest with
  | literal wanted =>
    unfold attempt Accepts
    constructor
    · intro leads
      split at leads
      · rename_i begins
        obtain ⟨after, rfl⟩ := List.isPrefixOf_iff_prefix.mp begins
        exact ⟨wanted, after, rfl, rfl, by simpa using leads⟩
      · exact absurd leads (by simp)
    · rintro ⟨taken, after, rfl, rfl, leads⟩
      simpa [List.isPrefixOf_iff_prefix] using leads
  | folded wanted =>
    unfold attempt Accepts
    constructor
    · intro leads
      split at leads
      · rename_i begins
        obtain ⟨taken, after, rfl, folds⟩ := beginsFolded_iff.mp begins
        rw [← length_eq_of_folds folds, List.take_left, List.drop_left] at leads
        exact ⟨taken, after, rfl, folds, leads⟩
      · exact absurd leads (by simp)
    · rintro ⟨taken, after, rfl, folds, leads⟩
      rw [if_pos (beginsFolded_iff.mpr ⟨taken, after, rfl, folds⟩), ← length_eq_of_folds folds,
        List.take_left, List.drop_left]
      exact leads
  | oneOf cls =>
    unfold attempt Accepts
    constructor
    · intro leads
      cases rest with
      | nil => exact absurd leads (by simp)
      | cons c rest =>
        dsimp only at leads
        split at leads
        · rename_i isCls
          exact ⟨[c], rest, rfl, ⟨c, rfl, isCls⟩, leads⟩
        · exact absurd leads (by simp)
    · rintro ⟨_, after, rfl, ⟨c, rfl, isCls⟩, leads⟩
      simpa [isCls] using leads
  | many cls => exact isSome_longest
  | few cls => exact (Bool.eq_iff_iff.mp isSome_shortest).trans isSome_longest
  | seq p q ihp ihq =>
    unfold attempt
    rw [ihp]
    constructor
    · rintro ⟨first, middle, rfl, accepts, leads⟩
      obtain ⟨second, after, rfl, accepts', leads⟩ := ihq.mp leads
      exact ⟨first ++ second, after, by simp, ⟨first, second, rfl, accepts, accepts'⟩,
        by simpa using leads⟩
    · rintro ⟨_, after, rfl, ⟨first, second, rfl, accepts, accepts'⟩, leads⟩
      refine ⟨first, second ++ after, by simp, accepts, ihq.mpr ?_⟩
      exact ⟨second, after, rfl, accepts', by simpa using leads⟩
  | either p q ihp ihq =>
    unfold attempt
    rw [Option.isSome_or, Bool.or_eq_true, ihp, ihq]
    constructor
    · rintro (⟨taken, after, split, accepts, leads⟩ | ⟨taken, after, split, accepts, leads⟩)
      · exact ⟨taken, after, split, .inl accepts, leads⟩
      · exact ⟨taken, after, split, .inr accepts, leads⟩
    · rintro ⟨taken, after, split, accepts | accepts, leads⟩
      · exact .inl ⟨taken, after, split, accepts, leads⟩
      · exact .inr ⟨taken, after, split, accepts, leads⟩
  | mark m =>
    unfold attempt Accepts
    rw [Option.isSome_map]
    constructor
    · intro leads
      exact ⟨[], rest, rfl, rfl, by simpa using leads⟩
    · rintro ⟨_, after, rfl, rfl, leads⟩
      simpa using leads
  | edge word =>
    unfold attempt Accepts
    constructor
    · intro leads
      split at leads
      · rename_i isEdge
        exact ⟨[], rest, rfl, ⟨rfl, isEdge⟩, by simpa using leads⟩
      · exact absurd leads (by simp)
    · rintro ⟨_, after, rfl, ⟨rfl, isEdge⟩, leads⟩
      simpa [isEdge] using leads
  | atStart =>
    unfold attempt Accepts
    constructor
    · intro leads
      split at leads
      · rename_i first
        exact ⟨[], rest, rfl, ⟨rfl, first⟩, by simpa using leads⟩
      · exact absurd leads (by simp)
    · rintro ⟨_, after, rfl, ⟨rfl, first⟩, leads⟩
      simpa [first] using leads
  | atEnd =>
    unfold attempt Accepts
    constructor
    · intro leads
      split at leads
      · rename_i last
        exact ⟨[], rest, rfl, ⟨rfl, last⟩, by simpa using leads⟩
      · exact absurd leads (by simp)
    · rintro ⟨_, after, rfl, ⟨rfl, last⟩, leads⟩
      simpa [last] using leads

/-- A match from a place exists if the pattern accepts some text from there on. -/
theorem isSome_attempt_finish {p : Pattern} :
    (p.attempt finish before rest).isSome = true ↔
      ∃ taken after, rest = taken ++ after ∧ p.Accepts before taken after := by
  simp [isSome_attempt, finish]

/-- Searching by tables finds a pattern exactly where it occurs. -/
theorem occursIn_iff {p : Pattern} {text : List Char} : p.occursIn text = true ↔ p.Occurs text := by
  have holds := holds_hits p text
  constructor
  · intro found
    obtain ⟨k, here, isHit⟩ := List.any_eq_true.mp found
    obtain ⟨i, inside, rfl⟩ := List.mem_iff_getElem.mp here
    have place : (text.take i).length = i :=
      List.length_take_of_le (by have := holds.length_eq; omega)
    have hit := holds.at?_eq (text.take i) (text.drop i) (List.take_append_drop i text)
    rw [place, Table.at?, List.getElem?_eq_getElem inside, Option.join_some] at hit
    rw [hit, isSome_attempt_finish] at isHit
    obtain ⟨taken, after, split, accepts⟩ := isHit
    exact ⟨text.take i, taken, after,
      by rw [List.append_assoc, ← split, List.take_append_drop], accepts⟩
  · rintro ⟨before, taken, after, rfl, accepts⟩
    rw [List.append_assoc] at holds ⊢
    have hit := holds.at?_eq before (taken ++ after) rfl
    have isHit := isSome_attempt_finish.mpr ⟨taken, after, rfl, accepts⟩
    rw [← hit, Table.at?] at isHit
    cases here : (p.hits (before ++ (taken ++ after)))[before.length]? with
    | none => simp [here] at isHit
    | some k =>
      rw [here, Option.join_some] at isHit
      exact List.any_eq_true.mpr ⟨k, List.mem_of_getElem? here, isHit⟩

theorem slice_middle (first middle last : List Char) :
    Match.slice (first ++ middle ++ last) first.length (first ++ middle).length = middle := by
  simp [Match.slice]

/-! ### Pieces -/

/-- `l` is `word` in any letter case. -/
def Spells (word : String) (l : List Char) : Prop := l.map foldCase = word.toList.map foldCase

instance (word : String) (l : List Char) : Decidable (Spells word l) :=
  inferInstanceAs (Decidable (_ = _))

variable {taken after : List Char}

theorem accepts_append {p q : Pattern} :
    (p ++ q).Accepts before taken after ↔ ∃ t₁ t₂, taken = t₁ ++ t₂ ∧
      p.Accepts before t₁ (t₂ ++ after) ∧ q.Accepts (before ++ t₁) t₂ after :=
  Iff.rfl

theorem accepts_optional {p : Pattern} :
    (optional p).Accepts before taken after ↔ taken = [] ∨ p.Accepts before taken after :=
  or_comm

theorem accepts_oneOrMore {cls : Char → Bool} :
    (oneOrMore cls).Accepts before taken after ↔ taken ≠ [] ∧ ∀ c ∈ taken, cls c = true := by
  unfold oneOrMore
  rw [accepts_append]
  constructor
  · rintro ⟨_, run, rfl, ⟨c, rfl, hc⟩, all⟩
    refine ⟨by simp, fun d hd => ?_⟩
    rcases List.mem_cons.mp hd with rfl | hd
    · exact hc
    · exact all d hd
  · rintro ⟨nonempty, all⟩
    obtain ⟨c, run, rfl⟩ := List.exists_cons_of_ne_nil nonempty
    exact ⟨[c], run, rfl, ⟨c, rfl, all c (by simp)⟩, fun x hx => all x (by simp [hx])⟩

theorem accepts_oneOrFew {cls : Char → Bool} :
    (oneOrFew cls).Accepts before taken after ↔ taken ≠ [] ∧ ∀ c ∈ taken, cls c = true :=
  @accepts_oneOrMore before taken after cls

theorem accepts_group {name : String} {p : Pattern} :
    (group name p).Accepts before taken after ↔ p.Accepts before taken after := by
  unfold group
  constructor
  · rintro ⟨_, _, rfl, ⟨_, taken, rfl, rfl, accepts⟩, rfl⟩
    simpa using accepts
  · intro accepts
    exact ⟨taken, [], by simp, ⟨[], taken, rfl, rfl, by simpa using accepts⟩, rfl⟩

theorem accepts_choice {p : Pattern} {ps : List Pattern} :
    (choice p ps).Accepts before taken after ↔ ∃ q ∈ p :: ps, q.Accepts before taken after := by
  induction ps generalizing p with
  | nil => simp [choice]
  | cons q ps ih =>
    unfold choice
    rw [Accepts, ih]
    simp

end OrchestrationGraph.Pattern
