import OrchestrationGraph.Proofs.Graph.Commutation

/-!
# Edges noted in parts and in another order

Which edges are refused depends on the names of the graph alone, and these never change
(`names_applyAll`). So a list may be noted in parts (`applyAll_append`), and what is left under each
name can be told from the list as it was given, refused edges included (`outcome_noted`). In another
order the same edges leave the same notes in another order (`applyAll_outcome`).
-/

namespace OrchestrationGraph.Graph

open Edge

variable {g : Graph} {name : String} {n n' : Node} {edges edges' : List Edge}

/-! ### In parts -/

theorem names_apply (g : Graph) (e : Edge) : (g.apply e).1.names = g.names := by
  unfold apply
  split
  · exact names_modify g e.target e.note
  · rfl

theorem names_applyAll (g : Graph) (edges : List Edge) : (g.applyAll edges).1.names = g.names := by
  induction edges generalizing g with
  | nil => rfl
  | cons e edges ih => rw [applyAll_cons, ih, names_apply]

theorem applyAll_append (g : Graph) (edges further : List Edge) :
    g.applyAll (edges ++ further) =
      (((g.applyAll edges).1.applyAll further).1,
        (g.applyAll edges).2 + ((g.applyAll edges).1.applyAll further).2) := by
  induction edges generalizing g with
  | nil => simp [applyAll]
  | cons e edges ih =>
    rw [List.cons_append, applyAll_cons, applyAll_cons, ih]
    split
    · rw [Nat.add_right_comm]
    · rfl

/-! ### What is left under a name -/

/-- What a list of edges makes of the node under a name: the known functions that call it or signal
to it go to the end, in the order of the list, and a continuation is remembered. -/
structure Outcome (g : Graph) (edges : List Edge) (name : String) (before after : Node) : Prop where
  callers : after.callers = before.callers ++ (callersOf name edges).filter g.contains
  signals : after.signals = before.signals ++ (signalsOf name edges).filter fun s => g.contains s.sender
  continuesAsNew : after.continuesAsNew = true ↔
    before.continuesAsNew = true ∨ .continuation name ∈ edges
  rest : after = { before with
    callers := after.callers, signals := after.signals, continuesAsNew := after.continuesAsNew }

/-- An edge to a function of the graph is kept if its other end is one as well. -/
theorem callersOf_kept (known : g.contains name = true) (edges : List Edge) :
    callersOf name (g.kept edges) = (callersOf name edges).filter g.contains := by
  unfold callersOf kept
  rw [List.filterMap_filter, List.filter_filterMap]
  refine List.filterMap_congr fun e _ => ?_
  cases e with
  | call caller callee =>
    by_cases same : callee = name
    · subst same
      by_cases there : g.contains caller <;> simp [callerAt, ends, known, there, Option.filter]
    · simp [callerAt, same]
  | signal => simp [callerAt]
  | continuation => simp [callerAt]

theorem signalsOf_kept (known : g.contains name = true) (edges : List Edge) :
    signalsOf name (g.kept edges) = (signalsOf name edges).filter fun s => g.contains s.sender := by
  unfold signalsOf kept
  rw [List.filterMap_filter, List.filter_filterMap]
  refine List.filterMap_congr fun e _ => ?_
  cases e with
  | call => simp [signalAt]
  | signal sender target event =>
    by_cases same : target = name
    · subst same
      by_cases there : g.contains sender <;> simp [signalAt, ends, known, there, Option.filter]
    · simp [signalAt, same]
  | continuation => simp [signalAt]

theorem continues_kept (known : g.contains name = true) :
    continues name (g.kept edges) = true ↔ .continuation name ∈ edges := by
  rw [continues_iff, kept, List.mem_filter, and_iff_left_iff_imp]
  intro _
  simp [ends, known]

theorem outcome_noted (known : g.contains name = true) (edges : List Edge) (n : Node) :
    g.Outcome edges name n (noted name (g.kept edges) n) where
  callers := congrArg (n.callers ++ ·) (callersOf_kept known edges)
  signals := congrArg (n.signals ++ ·) (signalsOf_kept known edges)
  continuesAsNew := by
    show (n.continuesAsNew || continues name (g.kept edges)) = true ↔ _
    rw [Bool.or_eq_true, continues_kept known]
  rest := rfl

theorem exists_outcome (there : g.get? name = some n) (edges : List Edge) :
    ∃ n', (g.applyAll edges).1.get? name = some n' ∧ g.Outcome edges name n n' := by
  refine ⟨noted name (g.kept edges) n, ?_, outcome_noted (contains_iff.mpr ⟨n, there⟩) edges n⟩
  rw [get?_applyAll, there, Option.map_some]

/-! ### In another order -/

/-- The nodes differ at most in the order of callers and in that of signals. -/
structure Rearranged (n n' : Node) : Prop where
  callers : n.callers.Perm n'.callers
  signals : n.signals.Perm n'.signals
  rest : n' = { n with callers := n'.callers, signals := n'.signals }

theorem Outcome.rearranged {before : Node} (outcome : g.Outcome edges name before n)
    (outcome' : g.Outcome edges' name before n') (perm : edges.Perm edges') : Rearranged n n' where
  callers := by
    rw [outcome.callers, outcome'.callers]
    exact ((perm.filterMap _).filter _).append_left _
  signals := by
    rw [outcome.signals, outcome'.signals]
    exact ((perm.filterMap _).filter _).append_left _
  rest := by
    have continues : n'.continuesAsNew = n.continuesAsNew := by
      rw [Bool.eq_iff_iff, outcome.continuesAsNew, outcome'.continuesAsNew, perm.mem_iff]
    rw [outcome.rest, outcome'.rest, continues]

theorem applied_countP (g : Graph) (edges : List Edge) :
    (g.applyAll edges).2 = edges.countP fun e => e.ends.all g.contains := by
  rw [applied_count, kept, List.countP_eq_length_filter]

/-- Noting edges keeps the names under which nodes stand, leaves of the edges just what they say of
known functions, and counts those that name known functions only. It may be done in parts, and in
another order it leaves the same notes in another order. -/
theorem applyAll_outcome (g : Graph) (edges : List Edge) :
    (g.applyAll edges).1.names = g.names ∧
      (∀ name n, g.get? name = some n →
        ∃ n', (g.applyAll edges).1.get? name = some n' ∧ g.Outcome edges name n n') ∧
      (g.applyAll edges).2 = edges.countP (fun e => e.ends.all g.contains) ∧
      (∀ further, g.applyAll (edges ++ further) =
        (((g.applyAll edges).1.applyAll further).1,
          (g.applyAll edges).2 + ((g.applyAll edges).1.applyAll further).2)) ∧
      ∀ edges', edges.Perm edges' →
        (g.applyAll edges').2 = (g.applyAll edges).2 ∧
        (g.applyAll edges').1.names = (g.applyAll edges).1.names ∧
        ∀ name n n', (g.applyAll edges).1.get? name = some n →
          (g.applyAll edges').1.get? name = some n' → Rearranged n n' := by
  refine ⟨names_applyAll g edges, fun name n there => exists_outcome there edges,
    applied_countP g edges, applyAll_append g edges, fun edges' perm => ⟨?_, ?_, ?_⟩⟩
  · rw [applied_countP, applied_countP, perm.countP_eq]
  · rw [names_applyAll, names_applyAll]
  · intro name n n' after after'
    have mapped := (get?_applyAll g edges name).symm.trans after
    obtain ⟨before, there, -⟩ := Option.map_eq_some_iff.mp mapped
    obtain ⟨m, found, outcome⟩ := exists_outcome there edges
    obtain ⟨m', found', outcome'⟩ := exists_outcome there edges'
    obtain rfl := Option.some.inj (found.symm.trans after)
    obtain rfl := Option.some.inj (found'.symm.trans after')
    exact outcome.rearranged outcome' perm

/-- A graph in which a node stands under a name that is not its own. -/
def aliased : Graph :=
  ⟨⟨[("A", { name := "A" }), ("O", { name := "Other", callers := ["A"] })], by decide⟩⟩

/-- Edges that repeat each other, lead back to where they start, or name an unknown function. -/
def mixedEdges : List Edge :=
  [.call "A" "O", .call "Other" "O", .signal "A" "O" "Go", .call "A" "O", .continuation "Other",
    .call "O" "O", .signal "Other" "O" "Go", .continuation "O"]

theorem applyAll_outcome_aliased :
    (aliased.get? "O").map (·.callers) = some ["A"] ∧ mixedEdges.Perm mixedEdges.reverse ∧
      ((aliased.applyAll mixedEdges).1.get? "O").map (·.callers) = some ["A", "A", "A", "O"] ∧
      (aliased.applyAll mixedEdges.reverse).2 = 5 ∧
      ∃ n n', (aliased.applyAll mixedEdges).1.get? "O" = some n ∧
        (aliased.applyAll mixedEdges.reverse).1.get? "O" = some n' ∧ Rearranged n n' := by
  have there : aliased.get? "O" = some { name := "Other", callers := ["A"] } := rfl
  have perm : mixedEdges.Perm mixedEdges.reverse := (List.reverse_perm _).symm
  obtain ⟨-, outcomes, count, -, reordered⟩ := applyAll_outcome aliased mixedEdges
  obtain ⟨-, outcomes', -⟩ := applyAll_outcome aliased mixedEdges.reverse
  obtain ⟨n, found, outcome⟩ := outcomes "O" _ there
  obtain ⟨n', found', -⟩ := outcomes' "O" _ there
  obtain ⟨same, -, rearranged⟩ := reordered _ perm
  refine ⟨by rw [there]; rfl, perm, ?_, ?_, n, n', found, found', rearranged "O" n n' found found'⟩
  · rw [found, Option.map_some, outcome.callers]
    decide
  · rw [same, count]
    decide

end OrchestrationGraph.Graph
