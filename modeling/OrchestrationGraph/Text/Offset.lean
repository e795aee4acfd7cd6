/-!
# Byte offsets

Places in a text are counted in the bytes of its UTF-8 form. A place inside a character is no
boundary, and a text cannot be cut there.
-/

namespace OrchestrationGraph.Text

def byteLength : List Char → Nat
  | [] => 0
  | c :: rest => c.utf8Size + byteLength rest

theorem byteLength_append (a b : List Char) :
    byteLength (a ++ b) = byteLength a + byteLength b := by
  induction a with
  | nil => simp [byteLength]
  | cons c a ih => simp [byteLength, ih, Nat.add_assoc]

theorem byteLength_eq_zero {a : List Char} (none : byteLength a = 0) : a = [] := by
  cases a with
  | nil => rfl
  | cons c a =>
    have := Char.utf8Size_pos c
    simp only [byteLength] at none
    omega

/-- What follows the first `n` bytes, if a character ends there. -/
def dropBytes? : Nat → List Char → Option (List Char)
  | 0, l => some l
  | _ + 1, [] => none
  | n + 1, c :: rest => if n + 1 < c.utf8Size then none else dropBytes? (n + 1 - c.utf8Size) rest
termination_by _ l => l.length

theorem dropBytes?_zero (l : List Char) : dropBytes? 0 l = some l := by
  unfold dropBytes?; rfl

theorem dropBytes?_byteLength (a b : List Char) :
    dropBytes? (byteLength a) (a ++ b) = some b := by
  induction a with
  | nil => simp [byteLength, dropBytes?_zero]
  | cons c a ih =>
    have hpos : 0 < c.utf8Size := Char.utf8Size_pos c
    obtain ⟨m, hm⟩ : ∃ m, byteLength (c :: a) = m + 1 :=
      ⟨byteLength (c :: a) - 1, by simp only [byteLength]; omega⟩
    rw [hm, List.cons_append, dropBytes?, ← hm]
    have : ¬ byteLength (c :: a) < c.utf8Size := by simp [byteLength]
    rw [if_neg this]
    simpa [byteLength] using ih

theorem eq_of_dropBytes? {n : Nat} {l r : List Char} (h : dropBytes? n l = some r) :
    ∃ a, l = a ++ r ∧ byteLength a = n := by
  fun_induction dropBytes? n l with
  | case1 l => exact ⟨[], by simpa using h, rfl⟩
  | case2 => simp at h
  | case3 n c rest hlt => simp at h
  | case4 n c rest hge ih =>
    obtain ⟨a, rfl, ha⟩ := ih h
    exact ⟨c :: a, rfl, by simp only [byteLength, ha]; omega⟩

/-- The number of line ends before byte `pos`; a place past the end counts as the end. -/
def lineEndsBefore : List Char → Nat → Nat
  | [], _ => 0
  | c :: rest, pos =>
    if pos = 0 then 0
    else (if c = '\n' then 1 else 0) + lineEndsBefore rest (pos - c.utf8Size)

/-- The line that byte `pos` lies on; lines count from one. -/
def lineNumber (text : List Char) (pos : Nat) : Nat := lineEndsBefore text pos + 1

theorem lineEndsBefore_byteLength (a b : List Char) :
    lineEndsBefore (a ++ b) (byteLength a) = a.count '\n' := by
  induction a with
  | nil => cases b <;> simp [lineEndsBefore, byteLength]
  | cons c a ih =>
    have pos : c.utf8Size + byteLength a ≠ 0 := by
      have := Char.utf8Size_pos c
      omega
    rw [List.cons_append, lineEndsBefore, byteLength, if_neg pos, Nat.add_sub_cancel_left, ih,
      List.count_cons, Nat.add_comm]
    simp only [beq_iff_eq]

theorem lineNumber_byteLength (a b : List Char) :
    lineNumber (a ++ b) (byteLength a) = a.count '\n' + 1 :=
  congrArg (· + 1) (lineEndsBefore_byteLength a b)

end OrchestrationGraph.Text
