import OrchestrationGraph.Json.Outline
import OrchestrationGraph.Proofs.Json.Token.Scan

/-!
# The outline of a written value

The tokens of a value read as its outline, with every container closed (`ofTokens_tokens`). Twice as
many steps as there are tokens are enough. Whatever the tokens are, their outline speaks of no number
that is not among them (`numbers_ofTokens`).
-/

namespace OrchestrationGraph.Json

/-! ### Outlines of written values -/

mutual

/-- The outline of a value that was written as a text. -/
def Value.outline : Value → Outline
  | .null => .null
  | .bool b => .bool b
  | .number n => .number (.ok n)
  | .text s => .text (.ok s)
  | .list items => .list (itemOutlines items) .closed
  | .object members => .object (memberOutlines members) .closed

def itemOutlines : List Value → List Outline
  | [] => []
  | v :: items => v.outline :: itemOutlines items

def memberOutlines : List (String × Value) → List (Except Fault String × Outline)
  | [] => []
  | (name, v) :: members => (.ok name, v.outline) :: memberOutlines members

end

variable {steps : Nat} {items : List Value} {members : List (String × Value)}

/-! ### Reading tokens -/

/-- No value begins with a closing bracket, so a list of items cannot be taken for an empty one. -/
theorem tokens_eq_cons (v : Value) : ∃ t l, v.tokens = t :: l ∧ t ≠ .closeList := by
  cases v with
  | null => exact ⟨_, _, rfl, nofun⟩
  | bool b => exact ⟨_, _, rfl, nofun⟩
  | number n => exact ⟨_, _, rfl, nofun⟩
  | text s => exact ⟨_, _, rfl, nofun⟩
  | list items => cases items <;> exact ⟨_, _, rfl, nofun⟩
  | object members => rcases members with _ | ⟨⟨name, v⟩, members⟩ <;> exact ⟨_, _, rfl, nofun⟩

/-- Enough steps read the value's tokens as its outline, and leave what follows. -/
def Reads (v : Value) : Prop :=
  ∀ steps rest, 2 * v.tokens.length ≤ steps → readValue steps (v.tokens ++ rest) = (v.outline, rest)

theorem readValue_openList {t : Token} (notClosed : t ≠ .closeList) (l : List Token) :
    readValue (steps + 1) (.openList :: t :: l) =
      (.list (readItems steps (t :: l)).1 (readItems steps (t :: l)).2.1,
        (readItems steps (t :: l)).2.2) := by
  cases t <;> first | rfl | exact absurd rfl notClosed

theorem readItems_closed {item : Value} {l rest : List Token}
    (read : readValue steps l = (item.outline, .closeList :: rest)) :
    readItems (steps + 1) l = ([item.outline], .closed, rest) := by
  rw [readItems, read]

theorem readItems_comma {item : Value} {t : Token} {l l' : List Token} (notClosed : t ≠ .closeList)
    (read : readValue steps l = (item.outline, .comma :: t :: l')) :
    readItems (steps + 1) l =
      (item.outline :: (readItems steps (t :: l')).1, (readItems steps (t :: l')).2) := by
  rw [readItems, read]
  cases t <;> first | rfl | exact absurd rfl notClosed

theorem readItems_tokens (steps : Nat) {item : Value} (reads : ∀ v ∈ item :: items, Reads v)
    (rest : List Token)
    (enough : 2 * (item.tokens.length + (itemTokens items).length) + 1 ≤ steps) :
    readItems steps (item.tokens ++ (itemTokens items ++ .closeList :: rest)) =
      (itemOutlines (item :: items), .closed, rest) := by
  -- The comma before each later item pays for the step that reads it.
  induction items generalizing item steps with
  | nil =>
    obtain ⟨steps, rfl⟩ : ∃ k, steps = k + 1 := ⟨steps - 1, by omega⟩
    have first := reads item List.mem_cons_self steps (.closeList :: rest) (by omega)
    exact readItems_closed first
  | cons next items ih =>
    obtain ⟨steps, rfl⟩ : ∃ k, steps = k + 1 := ⟨steps - 1, by omega⟩
    rw [itemTokens, List.length_cons, List.length_append] at enough
    have first := reads item List.mem_cons_self steps
      (itemTokens (next :: items) ++ .closeList :: rest) (by omega)
    have later : readItems steps (next.tokens ++ (itemTokens items ++ .closeList :: rest)) =
        (itemOutlines (next :: items), .closed, rest) :=
      ih steps (fun v here => reads v (List.mem_cons_of_mem _ here)) (by omega)
    obtain ⟨t, l, front, notClosed⟩ := tokens_eq_cons next
    rw [itemTokens, List.cons_append, List.append_assoc] at first ⊢
    rw [front, List.cons_append] at first later ⊢
    rw [readItems_comma notClosed first, later]
    rfl

theorem readMembers_tokens (steps : Nat) {name : String} {v : Value}
    (reads : ∀ m ∈ (name, v) :: members, Reads m.2) (rest : List Token)
    (enough : 2 * (v.tokens.length + (memberTokens members).length) + 1 ≤ steps) :
    readMembers steps (.text (.ok name) :: .colon ::
        (v.tokens ++ (memberTokens members ++ .closeObject :: rest))) =
      (memberOutlines ((name, v) :: members), .closed, rest) := by
  induction members generalizing name v steps with
  | nil =>
    obtain ⟨steps, rfl⟩ : ∃ k, steps = k + 1 := ⟨steps - 1, by omega⟩
    have value : Reads v := reads (name, v) List.mem_cons_self
    have first := value steps (.closeObject :: rest) (by omega)
    rw [readMembers, memberTokens, List.nil_append, first]
    rfl
  | cons next members ih =>
    obtain ⟨steps, rfl⟩ : ∃ k, steps = k + 1 := ⟨steps - 1, by omega⟩
    obtain ⟨next, w⟩ := next
    simp only [memberTokens, List.length_cons, List.length_append] at enough
    have value : Reads v := reads (name, v) List.mem_cons_self
    have first := value steps (memberTokens ((next, w) :: members) ++ .closeObject :: rest) (by omega)
    have later : readMembers steps (.text (.ok next) :: .colon ::
        (w.tokens ++ (memberTokens members ++ .closeObject :: rest))) =
          (memberOutlines ((next, w) :: members), .closed, rest) :=
      ih steps (fun m here => reads m (List.mem_cons_of_mem _ here)) (by omega)
    simp only [memberTokens, List.cons_append, List.append_assoc] at first ⊢
    rw [readMembers, first]
    dsimp only
    rw [later]
    rfl

theorem reads_list (reads : ∀ v ∈ items, Reads v) : Reads (.list items) := by
  intro steps rest enough
  cases items with
  | nil =>
    obtain ⟨steps, rfl⟩ : ∃ k, steps = k + 1 := ⟨steps - 1, by simp [Value.tokens] at enough; omega⟩
    rfl
  | cons item items =>
    obtain ⟨t, l, front, notClosed⟩ := tokens_eq_cons item
    simp only [Value.tokens, List.length_cons, List.length_append, List.length_nil] at enough
    obtain ⟨steps, rfl⟩ : ∃ k, steps = k + 1 := ⟨steps - 1, by omega⟩
    have read := readItems_tokens steps reads rest (by omega)
    simp only [Value.tokens, List.cons_append, List.append_assoc, List.nil_append]
    rw [front, List.cons_append] at read ⊢
    rw [readValue_openList notClosed, read]
    rfl

theorem reads_object (reads : ∀ m ∈ members, Reads m.2) : Reads (.object members) := by
  intro steps rest enough
  cases members with
  | nil =>
    obtain ⟨steps, rfl⟩ : ∃ k, steps = k + 1 := ⟨steps - 1, by simp [Value.tokens] at enough; omega⟩
    rfl
  | cons member members =>
    obtain ⟨name, v⟩ := member
    simp only [Value.tokens, List.length_cons, List.length_append, List.length_nil] at enough
    obtain ⟨steps, rfl⟩ : ∃ k, steps = k + 1 := ⟨steps - 1, by omega⟩
    have read := readMembers_tokens steps reads rest (by omega)
    simp only [Value.tokens, List.cons_append, List.append_assoc, List.nil_append]
    rw [readValue]
    · rw [read]
      rfl
    · intro empty
      cases empty
    · intro _ closed
      cases closed

theorem reads_scalar {v : Value} {t : Token} (single : v.tokens = [t])
    (read : ∀ steps rest, readValue (steps + 1) (t :: rest) = (v.outline, rest)) : Reads v := by
  intro steps rest enough
  rw [single, List.length_singleton] at enough
  obtain ⟨steps, rfl⟩ : ∃ k, steps = k + 1 := ⟨steps - 1, by omega⟩
  rw [single]
  exact read steps rest

theorem reads (v : Value) : Reads v := by
  induction v with
  | null => exact reads_scalar rfl fun _ _ => rfl
  | bool b => exact reads_scalar rfl fun _ _ => rfl
  | number n => exact reads_scalar rfl fun _ _ => rfl
  | text s => exact reads_scalar rfl fun _ _ => rfl
  | list items ih => exact reads_list ih
  | object members ih => exact reads_object ih

theorem ofTokens_tokens (v : Value) : Outline.ofTokens v.tokens = (v.outline, []) := by
  have read := reads v (2 * v.tokens.length + 1) [] (Nat.le_succ _)
  rw [List.append_nil] at read
  exact read

/-! ### Numbers -/

mutual

/-- The numbers that an outline speaks of. -/
def Outline.numbers : Outline → List (Except Fault Number)
  | .null | .bool _ | .text _ | .broken .. => []
  | .number n => [n]
  | .list told _ => listNumbers told
  | .object told _ => objectNumbers told

def listNumbers : List Outline → List (Except Fault Number)
  | [] => []
  | o :: told => o.numbers ++ listNumbers told

def objectNumbers : List (Except Fault String × Outline) → List (Except Fault Number)
  | [] => []
  | (_, o) :: told => o.numbers ++ objectNumbers told

end

theorem numbers_subset_listNumbers {o : Outline} {told : List Outline} (here : o ∈ told) :
    o.numbers ⊆ listNumbers told := by
  induction told with
  | nil => exact absurd here List.not_mem_nil
  | cons first told ih =>
    rw [listNumbers]
    obtain rfl | later := List.mem_cons.mp here
    · exact List.subset_append_left _ _
    · exact List.Subset.trans (ih later) (List.subset_append_right _ _)

theorem numbers_subset_objectNumbers {m : Except Fault String × Outline}
    {told : List (Except Fault String × Outline)} (here : m ∈ told) :
    m.2.numbers ⊆ objectNumbers told := by
  induction told with
  | nil => exact absurd here List.not_mem_nil
  | cons first told ih =>
    rw [objectNumbers]
    obtain rfl | later := List.mem_cons.mp here
    · exact List.subset_append_left _ _
    · exact List.Subset.trans (ih later) (List.subset_append_right _ _)

/-- The numbers and what is left are among the tokens. -/
def Among (l : List Token) (numbers : List (Except Fault Number)) (left : List Token) : Prop :=
  numbers.map Token.number ⊆ l ∧ left ⊆ l

/-- In so many steps no number is read that is not among the tokens. -/
structure Faithful (steps : Nat) : Prop where
  value : ∀ l, Among l (readValue steps l).1.numbers (readValue steps l).2
  items : ∀ l, Among l (listNumbers (readItems steps l).1) (readItems steps l).2.2
  members : ∀ l, Among l (objectNumbers (readMembers steps l).1) (readMembers steps l).2.2

variable {l l' left left' : List Token} {numbers numbers' : List (Except Fault Number)}

theorem among_none (l : List Token) : Among l [] [] := ⟨List.nil_subset l, List.nil_subset l⟩

namespace Among

theorem mono (among : Among l' numbers left) (within : l' ⊆ l) : Among l numbers left :=
  ⟨List.Subset.trans among.1 within, List.Subset.trans among.2 within⟩

theorem leave (among : Among l numbers left) (fewer : left' ⊆ left) : Among l numbers left' :=
  ⟨among.1, List.Subset.trans fewer among.2⟩

theorem append (first : Among l numbers left) (later : Among left numbers' left') :
    Among l (numbers ++ numbers') left' := by
  refine ⟨?_, List.Subset.trans later.2 first.2⟩
  rw [List.map_append, List.append_subset]
  exact ⟨first.1, List.Subset.trans later.1 first.2⟩

end Among

namespace Faithful

theorem next_value (faithful : Faithful steps) (l : List Token) :
    Among l (readValue (steps + 1) l).1.numbers (readValue (steps + 1) l).2 := by
  unfold readValue
  split
  case h_11 steps' rest _ _ same =>
    obtain rfl : steps' = steps := Nat.succ.inj same.symm
    exact (faithful.items rest).mono (List.subset_cons_self _ _)
  case h_14 steps' rest _ _ same =>
    obtain rfl : steps' = steps := Nat.succ.inj same.symm
    exact (faithful.members rest).mono (List.subset_cons_self _ _)
  all_goals simp [Among, Outline.numbers, listNumbers, objectNumbers]

theorem next_items (faithful : Faithful steps) (l : List Token) :
    Among l (listNumbers (readItems (steps + 1) l).1) (readItems (steps + 1) l).2.2 := by
  have first := faithful.value l
  unfold readItems
  generalize readValue steps l = read at *
  obtain ⟨o, rest⟩ := read
  have single : listNumbers [o] = o.numbers := List.append_nil _
  dsimp only at first ⊢
  split
  case h_2 rest =>
    rw [single]
    exact first.leave (List.subset_cons_self _ _)
  case h_5 rest _ _ =>
    exact first.append ((faithful.items rest).mono (List.subset_cons_self _ _))
  all_goals
    rw [single]
    exact first.leave (List.nil_subset _)

theorem next_members (faithful : Faithful steps) (l : List Token) :
    Among l (objectNumbers (readMembers (steps + 1) l).1) (readMembers (steps + 1) l).2.2 := by
  unfold readMembers
  split
  case h_2 steps' name l same =>
    obtain rfl : steps' = steps := Nat.succ.inj same.symm
    have within : l ⊆ _ := List.Subset.trans (List.subset_cons_self .colon l)
      (List.subset_cons_self (.text name) _)
    refine Among.mono ?_ within
    have first := faithful.value l
    generalize readValue steps' l = read at *
    obtain ⟨o, rest⟩ := read
    have single (name) : objectNumbers [(name, o)] = o.numbers := List.append_nil _
    dsimp only at first ⊢
    split
    case h_2 rest =>
      rw [single]
      exact first.leave (List.subset_cons_self _ _)
    case h_5 rest _ _ =>
      exact first.append ((faithful.members rest).mono (List.subset_cons_self _ _))
    all_goals
      rw [single]
      exact first.leave (List.nil_subset _)
  all_goals exact among_none _

theorem next (faithful : Faithful steps) : Faithful (steps + 1) :=
  ⟨faithful.next_value, faithful.next_items, faithful.next_members⟩

end Faithful

theorem faithful (steps : Nat) : Faithful steps := by
  induction steps with
  | zero => exact ⟨fun l => by cases l <;> exact among_none _, among_none, among_none⟩
  | succ steps ih => exact ih.next

theorem numbers_ofTokens {n : Except Fault Number} (told : n ∈ (Outline.ofTokens l).1.numbers) :
    .number n ∈ l :=
  ((faithful _).value l).1 (List.mem_map_of_mem told)

end OrchestrationGraph.Json
