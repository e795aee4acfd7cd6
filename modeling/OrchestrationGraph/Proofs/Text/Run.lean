import OrchestrationGraph.Text.Blank
import OrchestrationGraph.Text.WordChar

/-!
# Runs of a class of characters

A text that begins with a run of a class goes on with another character, or ends, at one place only
(`run_unique`). What is trimmed has no run at either end, and trimming leaves it alone
(`trimBy_trimBy`). No white space is part of a word (`isWord_of_isBlank`).
-/

namespace OrchestrationGraph.Text

/-- All characters are of the class. -/
def Run (cls : Char → Bool) (l : List Char) : Prop := ∀ c ∈ l, cls c = true

/-- The text does not go on with a character of the class. -/
def EndsRun (cls : Char → Bool) (l : List Char) : Prop := ∀ c ∈ l.head?, cls c = false

variable {cls : Char → Bool} {l l' run run' after after' : List Char} {c : Char}

theorem run_nil : Run cls [] := nofun

theorem run_of_all (all : l.all cls = true) : Run cls l := List.all_eq_true.mp all

theorem run_cons : Run cls (c :: l) ↔ cls c = true ∧ Run cls l := by
  unfold Run
  simp

theorem run_append : Run cls (l ++ l') ↔ Run cls l ∧ Run cls l' := by
  unfold Run
  simp only [List.mem_append, or_imp, forall_and]

theorem Run.not_mem (isRun : Run cls l) (isNone : cls c = false) : c ∉ l := by
  intro here
  exact absurd (isRun c here) (by simp [isNone])

theorem endsRun_cons : EndsRun cls (c :: l) ↔ cls c = false := by
  unfold EndsRun
  simp

section

variable {other : Char → Bool} (disjoint : ∀ c, other c = true → cls c = false)

include disjoint

/-- What follows a run of another class stops, for no character is of both. -/
theorem endsRun_append (isRun : Run other run) (stops : EndsRun cls after) :
    EndsRun cls (run ++ after) := by
  cases run with
  | nil => exact stops
  | cons c run => exact endsRun_cons.mpr (disjoint c (run_cons.mp isRun).1)

theorem endsRun_of_run (isRun : Run other run) (nonempty : run ≠ []) : EndsRun cls (run ++ after) := by
  obtain ⟨c, run, rfl⟩ := List.exists_cons_of_ne_nil nonempty
  exact endsRun_cons.mpr (disjoint c (run_cons.mp isRun).1)

end

theorem run_unique (split : run ++ after = run' ++ after') (isRun : Run cls run)
    (isRun' : Run cls run') (stops : EndsRun cls after) (stops' : EndsRun cls after') :
    run = run' ∧ after = after' := by
  induction run generalizing run' with
  | nil =>
    cases run' with
    | nil => exact ⟨rfl, split⟩
    | cons d run' =>
      obtain rfl : after = d :: (run' ++ after') := split
      exact absurd (run_cons.mp isRun').1 (by simp [endsRun_cons.mp stops])
  | cons c run ih =>
    cases run' with
    | nil =>
      obtain rfl : c :: (run ++ after) = after' := split
      exact absurd (run_cons.mp isRun).1 (by simp [endsRun_cons.mp stops'])
    | cons d run' =>
      obtain ⟨rfl, tails⟩ := List.cons.inj split
      obtain ⟨rfl, same⟩ := ih tails (run_cons.mp isRun).2 (run_cons.mp isRun').2
      exact ⟨rfl, same⟩

/-! ### Trimming -/

theorem EndsRun.left (stops : EndsRun cls (l ++ l')) : EndsRun cls l := by
  cases l with
  | nil => nofun
  | cons c l => exact endsRun_cons.mpr (endsRun_cons.mp stops)

theorem endsRun_dropWhile (cls : Char → Bool) (l : List Char) : EndsRun cls (l.dropWhile cls) := by
  induction l with
  | nil => nofun
  | cons c l ih =>
    rw [List.dropWhile_cons]
    split
    · exact ih
    · rename_i isNone
      exact endsRun_cons.mpr (by simpa using isNone)

theorem EndsRun.dropWhile_eq (stops : EndsRun cls l) : l.dropWhile cls = l := by
  cases l with
  | nil => rfl
  | cons c l => rw [List.dropWhile_cons_of_neg (by simp [endsRun_cons.mp stops])]

/-- A text begins with a run that ends, of no character maybe. -/
theorem exists_run (cls : Char → Bool) (l : List Char) :
    ∃ run after, l = run ++ after ∧ Run cls run ∧ EndsRun cls after :=
  ⟨l.takeWhile cls, l.dropWhile cls, List.takeWhile_append_dropWhile.symm,
    run_of_all List.all_takeWhile, endsRun_dropWhile cls l⟩

theorem endsRun_trimBy (cls : Char → Bool) (l : List Char) :
    EndsRun cls (trimBy cls l) ∧ EndsRun cls (trimBy cls l).reverse := by
  unfold trimBy
  generalize cut : l.dropWhile cls = front
  have stops : EndsRun cls front := cut ▸ endsRun_dropWhile cls l
  obtain ⟨removed, split⟩ := List.dropWhile_suffix cls (l := front.reverse)
  have whole : front = (front.reverse.dropWhile cls).reverse ++ removed.reverse := by
    rw [← List.reverse_append, split, List.reverse_reverse]
  refine ⟨EndsRun.left (whole ▸ stops), ?_⟩
  rw [List.reverse_reverse]
  exact endsRun_dropWhile cls _

theorem Run.not_endsRun (isRun : Run cls l) (nonempty : l ≠ []) : ¬ EndsRun cls l := by
  obtain ⟨c, l, rfl⟩ := List.exists_cons_of_ne_nil nonempty
  simp [endsRun_cons, (run_cons.mp isRun).1]

theorem run_reverse : Run cls l.reverse ↔ Run cls l := by
  unfold Run
  simp only [List.mem_reverse]

theorem trimBy_of_run (isRun : Run cls l) : trimBy cls l = [] := by
  have none : l.dropWhile cls = [] := by
    have all : (l ++ []).dropWhile cls = [].dropWhile cls := List.dropWhile_append_of_pos isRun
    rwa [List.append_nil] at all
  rw [trimBy, none]
  rfl

theorem trimBy_of_endsRun (front : EndsRun cls l) (back : EndsRun cls l.reverse) :
    trimBy cls l = l := by
  rw [trimBy, front.dropWhile_eq, back.dropWhile_eq, List.reverse_reverse]

theorem trimBy_trimBy (cls : Char → Bool) (l : List Char) :
    trimBy cls (trimBy cls l) = trimBy cls l :=
  trimBy_of_endsRun (endsRun_trimBy cls l).1 (endsRun_trimBy cls l).2

/-- Runs around a text that begins and ends with other characters are all that is trimmed. -/
theorem trimBy_surrounded (isRun : Run cls run) (isRun' : Run cls run') (nonempty : l ≠ [])
    (front : EndsRun cls l) (back : EndsRun cls l.reverse) : trimBy cls (run ++ l ++ run') = l := by
  have ahead : (run ++ l ++ run').dropWhile cls = l ++ run' := by
    obtain ⟨c, l, rfl⟩ := List.exists_cons_of_ne_nil nonempty
    rw [List.append_assoc, List.dropWhile_append_of_pos isRun]
    exact EndsRun.dropWhile_eq (endsRun_cons.mpr (endsRun_cons.mp front))
  have behind : (run'.reverse ++ l.reverse).dropWhile cls = l.reverse := by
    rw [List.dropWhile_append_of_pos fun c hc => isRun' c (List.mem_reverse.mp hc)]
    exact back.dropWhile_eq
  rw [trimBy, ahead, List.reverse_append, behind, List.reverse_reverse]

theorem trimEndBy_append (back : EndsRun cls l.reverse) (l' : List Char) :
    trimEndBy cls (l ++ l') = l ++ trimEndBy cls l' := by
  unfold trimEndBy
  rw [List.reverse_append, List.dropWhile_append]
  split
  · rename_i none
    rw [back.dropWhile_eq, List.isEmpty_iff.mp none, List.reverse_nil, List.append_nil,
      List.reverse_reverse]
  · rw [List.reverse_append, List.reverse_reverse]

/-- What is trimmed off the end is a run, and the rest does not end with one. -/
theorem exists_trimEndBy (cls : Char → Bool) (l : List Char) :
    ∃ run, l = trimEndBy cls l ++ run ∧ Run cls run ∧ EndsRun cls (trimEndBy cls l).reverse := by
  refine ⟨(l.reverse.takeWhile cls).reverse, ?_, ?_, ?_⟩
  · rw [trimEndBy, ← List.reverse_append, List.takeWhile_append_dropWhile, List.reverse_reverse]
  · intro c hc
    exact List.all_eq_true.mp List.all_takeWhile c (List.mem_reverse.mp hc)
  · rw [trimEndBy, List.reverse_reverse]
    exact endsRun_dropWhile cls _

/-! ### White space -/

/-- The code points of white space. -/
def blankPoints : List Nat :=
  [9, 10, 11, 12, 13, 0x20, 0x85, 0xA0, 0x1680, 0x2000, 0x2001, 0x2002, 0x2003, 0x2004, 0x2005,
    0x2006, 0x2007, 0x2008, 0x2009, 0x200A, 0x2028, 0x2029, 0x202F, 0x205F, 0x3000]

theorem mem_blankPoints (blank : isBlank c = true) : c.toNat ∈ blankPoints := by
  unfold isBlank at blank
  simp only [Bool.or_eq_true, Bool.and_eq_true, decide_eq_true_eq, beq_iff_eq] at blank
  simp only [blankPoints, List.mem_cons, List.not_mem_nil, or_false]
  omega

theorem blankPoints_no_word : blankPoints.all (fun n => !isWord (Char.ofNat n)) = true := by
  decide +kernel

theorem isWord_of_isBlank (blank : isBlank c = true) : isWord c = false := by
  have noWord := List.all_eq_true.mp blankPoints_no_word _ (mem_blankPoints blank)
  simpa using noWord

theorem isBlank_of_isWord (word : isWord c = true) : isBlank c = false := by
  cases blank : isBlank c with
  | false => rfl
  | true => exact absurd (isWord_of_isBlank blank) (by simp [word])

theorem isWord_of_isAsciiWord (word : isAsciiWord c = true) : isWord c = true := by
  have isAscii : c.toNat < 128 := by
    delta isAsciiWord Char.isAlphanum Char.isAlpha Char.isUpper Char.isLower Char.isDigit at word
    simp only [Bool.or_eq_true, Bool.and_eq_true, decide_eq_true_eq, beq_iff_eq, ge_iff_le,
      UInt32.le_iff_toNat_le] at word
    rcases word with ((⟨_, le⟩ | ⟨_, le⟩) | ⟨_, le⟩) | rfl
    · exact Nat.lt_of_le_of_lt le (by decide)
    · exact Nat.lt_of_le_of_lt le (by decide)
    · exact Nat.lt_of_le_of_lt le (by decide)
    · decide
  rw [isWord, if_pos isAscii, word]

theorem isBlank_of_isDigit (digit : c.isDigit = true) : isBlank c = false :=
  isBlank_of_isWord (isWord_of_isAsciiWord (by simp [isAsciiWord, Char.isAlphanum, digit]))

end OrchestrationGraph.Text
