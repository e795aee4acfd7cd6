import OrchestrationGraph.Text.Ascii
import OrchestrationGraph.Text.Blank

/-!
# Cutting texts

Cutting at the separators of a text that is joined from two at a separator gives the pieces of both
(`piecesBy_append`), no piece has a separator in it (`of_mem_piecesBy`), and lines are cut where they
end (`piecesBy_lines`). Cutting off an ending gives what the ending was appended to
(`dropTail?_eq_some_iff`).
-/

namespace OrchestrationGraph.Text

variable {p : Char → Bool} {l piece : List Char} {c : Char}

theorem piecesBy_separator (isSeparator : p c = true) (l : List Char) :
    piecesBy p (c :: l) = [] :: piecesBy p l := by
  rw [piecesBy, if_pos isSeparator]

theorem piecesBy_cons {first : List Char} {more : List (List Char)} (noSeparator : p c = false)
    (cut : piecesBy p l = first :: more) : piecesBy p (c :: l) = (c :: first) :: more := by
  rw [piecesBy, if_neg (by simp [noSeparator]), cut]

theorem piecesBy_append (isSeparator : p c = true) (l r : List Char) :
    piecesBy p (l ++ c :: r) = piecesBy p l ++ piecesBy p r := by
  induction l with
  | nil => exact piecesBy_separator isSeparator r
  | cons d l ih =>
    rw [List.cons_append]
    cases separates : p d with
    | true => rw [piecesBy_separator separates, piecesBy_separator separates, ih, List.cons_append]
    | false =>
      obtain ⟨first, more, cut⟩ := List.exists_cons_of_ne_nil (piecesBy_ne_nil p l)
      rw [cut, List.cons_append] at ih
      rw [piecesBy_cons separates cut, piecesBy_cons separates ih, List.cons_append]

theorem piecesBy_of_none (none : ∀ c ∈ l, p c = false) : piecesBy p l = [l] := by
  induction l with
  | nil => rfl
  | cons c l ih =>
    exact piecesBy_cons (none c List.mem_cons_self)
      (ih fun d hd => none d (List.mem_cons_of_mem c hd))

/-- What stands in front without a separator belongs to the first piece. -/
theorem piecesBy_prepend {front first : List Char} {more : List (List Char)}
    (none : ∀ c ∈ front, p c = false) (cut : piecesBy p l = first :: more) :
    piecesBy p (front ++ l) = (front ++ first) :: more := by
  induction front with
  | nil => exact cut
  | cons c front ih =>
    obtain ⟨separates, none⟩ := List.forall_mem_cons.mp none
    exact piecesBy_cons separates (ih none)

theorem of_mem_piecesBy (here : piece ∈ piecesBy p l) : ∀ c ∈ piece, p c = false := by
  induction l generalizing piece with
  | nil =>
    obtain rfl : piece = [] := by simpa [piecesBy] using here
    simp
  | cons d l ih =>
    cases separates : p d with
    | true =>
      rw [piecesBy_separator separates] at here
      rcases List.mem_cons.mp here with rfl | later
      · simp
      · exact ih later
    | false =>
      obtain ⟨first, more, cut⟩ := List.exists_cons_of_ne_nil (piecesBy_ne_nil p l)
      rw [piecesBy_cons separates cut] at here
      rw [cut] at ih
      rcases List.mem_cons.mp here with rfl | later
      · intro c hc
        rcases List.mem_cons.mp hc with rfl | hc
        · exact separates
        · exact ih List.mem_cons_self c hc
      · exact ih (List.mem_cons_of_mem first later)

theorem mem_of_mem_piecesBy (here : piece ∈ piecesBy p l) (within : c ∈ piece) : c ∈ l := by
  induction l generalizing piece with
  | nil =>
    obtain rfl : piece = [] := by simpa [piecesBy] using here
    exact within
  | cons d l ih =>
    cases separates : p d with
    | true =>
      rw [piecesBy_separator separates] at here
      rcases List.mem_cons.mp here with rfl | later
      · exact absurd within List.not_mem_nil
      · exact List.mem_cons_of_mem d (ih later within)
    | false =>
      obtain ⟨first, more, cut⟩ := List.exists_cons_of_ne_nil (piecesBy_ne_nil p l)
      rw [piecesBy_cons separates cut] at here
      rw [cut] at ih
      rcases List.mem_cons.mp here with rfl | later
      · rcases List.mem_cons.mp within with rfl | within
        · exact List.mem_cons_self
        · exact List.mem_cons_of_mem d (ih List.mem_cons_self within)
      · exact List.mem_cons_of_mem d (ih (List.mem_cons_of_mem first later) within)

/-- Each line ends with the separator, so nothing is left behind the last. -/
theorem piecesBy_lines (isSeparator : p c = true) {lines : List (List Char)}
    (whole : ∀ line ∈ lines, ∀ c ∈ line, p c = false) :
    piecesBy p (lines.flatMap fun line => line ++ [c]) = lines ++ [[]] := by
  induction lines with
  | nil => rfl
  | cons line lines ih =>
    have first := piecesBy_of_none (whole line List.mem_cons_self)
    have rest := ih fun line here => whole line (List.mem_cons_of_mem _ here)
    rw [List.flatMap_cons, List.append_assoc, List.singleton_append, piecesBy_append isSeparator,
      first, rest]
    rfl

theorem dropTail?_eq_some_iff {tail l front : List Char} :
    dropTail? tail l = some front ↔ l = front ++ tail := by
  unfold dropTail?
  constructor
  · intro cut
    split at cut
    · rename_i ends
      obtain ⟨front, rfl⟩ := List.isSuffixOf_iff_suffix.mp ends
      simpa using cut
    · exact absurd cut nofun
  · rintro rfl
    simp [List.isSuffixOf_iff_suffix]

end OrchestrationGraph.Text
