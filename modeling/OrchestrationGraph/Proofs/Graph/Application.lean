import OrchestrationGraph.Proofs.Graph.Keyed

/-!
# What noting edges leaves behind

Noting a list of edges adds to each node the callers, signals and continuations of the edges that
were kept, in their order (`get?_applyAll`), and the count is the number of these edges
(`applied_count`). No node comes or goes.
-/

namespace OrchestrationGraph

namespace Edge

/-- The caller that an edge notes at the function. -/
def callerAt (name : String) : Edge → Option String
  | call caller callee => if callee = name then some caller else none
  | _ => none

/-- The signal that an edge notes at the function. -/
def signalAt (name : String) : Edge → Option Signal
  | signal sender target event => if target = name then some ⟨sender, event⟩ else none
  | _ => none

def callersOf (name : String) (edges : List Edge) : List String := edges.filterMap (callerAt name)

def signalsOf (name : String) (edges : List Edge) : List Signal := edges.filterMap (signalAt name)

/-- Whether an edge says that the function starts itself anew. -/
def continues (name : String) (edges : List Edge) : Bool :=
  edges.any fun e => e = continuation name

variable {name : String} {edges : List Edge}

theorem callerAt_eq_some {e : Edge} {caller : String} :
    callerAt name e = some caller ↔ e = call caller name := by
  cases e with
  | call caller' callee => simp [callerAt, and_comm]
  | signal => simp [callerAt]
  | continuation => simp [callerAt]

theorem signalAt_eq_some {e : Edge} {s : Signal} :
    signalAt name e = some s ↔ e = signal s.sender name s.event := by
  obtain ⟨sender, event⟩ := s
  cases e with
  | call => simp [signalAt]
  | signal sender' target event' => simp [signalAt, and_left_comm]
  | continuation => simp [signalAt]

theorem callersOf_cons (name : String) (e : Edge) (edges : List Edge) :
    callersOf name (e :: edges) = (callerAt name e).toList ++ callersOf name edges := by
  unfold callersOf
  cases noted : callerAt name e with
  | none => rw [List.filterMap_cons_none noted]; rfl
  | some caller => rw [List.filterMap_cons_some noted]; rfl

theorem signalsOf_cons (name : String) (e : Edge) (edges : List Edge) :
    signalsOf name (e :: edges) = (signalAt name e).toList ++ signalsOf name edges := by
  unfold signalsOf
  cases noted : signalAt name e with
  | none => rw [List.filterMap_cons_none noted]; rfl
  | some s => rw [List.filterMap_cons_some noted]; rfl

theorem continues_cons (name : String) (e : Edge) (edges : List Edge) :
    continues name (e :: edges) = (decide (e = continuation name) || continues name edges) := rfl

theorem mem_callersOf {caller : String} :
    caller ∈ callersOf name edges ↔ call caller name ∈ edges := by
  simp [callersOf, List.mem_filterMap, callerAt_eq_some]

theorem mem_signalsOf {s : Signal} :
    s ∈ signalsOf name edges ↔ signal s.sender name s.event ∈ edges := by
  simp [signalsOf, List.mem_filterMap, signalAt_eq_some]

theorem continues_iff : continues name edges = true ↔ continuation name ∈ edges := by
  simp [continues]

theorem nodup_callersOf (nodup : edges.Nodup) : (callersOf name edges).Nodup := by
  refine List.Pairwise.filterMap _ ?_ nodup
  rintro e e' different caller noted _ noted' rfl
  exact different ((callerAt_eq_some.mp noted).trans (callerAt_eq_some.mp noted').symm)

theorem nodup_signalsOf (nodup : edges.Nodup) : (signalsOf name edges).Nodup := by
  refine List.Pairwise.filterMap _ ?_ nodup
  rintro e e' different s noted _ noted' rfl
  exact different ((signalAt_eq_some.mp noted).trans (signalAt_eq_some.mp noted').symm)

/-- Among different edges those that lead to a function are its callers, its signals and at most one
continuation. -/
theorem countP_target (nodup : edges.Nodup) :
    edges.countP (fun e => e.target = name) =
      (callersOf name edges).length + (signalsOf name edges).length +
        if continues name edges then 1 else 0 := by
  induction edges with
  | nil => rfl
  | cons e edges ih =>
    obtain ⟨fresh, nodup⟩ := List.nodup_cons.mp nodup
    rw [List.countP_cons, ih nodup, callersOf_cons, signalsOf_cons, continues_cons]
    cases e with
    | call caller callee =>
      by_cases same : callee = name
      · simp [callerAt, signalAt, target, same]
        omega
      · simp [callerAt, signalAt, target, same]
    | signal sender goal event =>
      by_cases same : goal = name
      · simp [callerAt, signalAt, target, same]
        omega
      · simp [callerAt, signalAt, target, same]
    | continuation function =>
      by_cases same : function = name
      · subst same
        have unset : continues function edges = false := by
          rw [Bool.eq_false_iff, ne_eq, continues_iff]
          exact fresh
        simp [callerAt, signalAt, target, unset]
      · simp [callerAt, signalAt, target, same]

end Edge

namespace Graph

open Edge

/-- The edges of which all ends are in the graph. -/
def kept (g : Graph) (edges : List Edge) : List Edge :=
  edges.filter fun e => e.ends.all g.contains

variable {g : Graph}

theorem contains_apply (g : Graph) (e : Edge) (name : String) :
    (g.apply e).1.contains name = g.contains name := by
  unfold apply
  split
  · exact contains_modify g e.target name e.note
  · rfl

theorem kept_apply (g : Graph) (e : Edge) (edges : List Edge) :
    (g.apply e).1.kept edges = g.kept edges := by
  have same : (g.apply e).1.contains = g.contains := funext (contains_apply g e)
  unfold kept
  rw [same]

theorem applyAll_cons (g : Graph) (e : Edge) (edges : List Edge) :
    g.applyAll (e :: edges) = (((g.apply e).1.applyAll edges).1,
      if (g.apply e).2 then ((g.apply e).1.applyAll edges).2 + 1
      else ((g.apply e).1.applyAll edges).2) := rfl

/-- As many edges are counted as are kept. -/
theorem applied_count (g : Graph) (edges : List Edge) :
    (g.applyAll edges).2 = (g.kept edges).length := by
  induction edges generalizing g with
  | nil => rfl
  | cons e edges ih =>
    rw [applyAll_cons, ih, kept_apply, kept, kept, List.filter_cons]
    unfold apply
    split <;> simp

theorem Keyed.applyAll (keyed : g.Keyed) (edges : List Edge) : (g.applyAll edges).1.Keyed := by
  induction edges generalizing g with
  | nil => exact keyed
  | cons e edges ih =>
    rw [applyAll_cons]
    refine ih ?_
    unfold apply
    split
    · exact keyed.modify fun n => by cases e <;> rfl
    · exact keyed

/-- The node with the notes of edges that lead to it. -/
def noted (name : String) (edges : List Edge) (n : Node) : Node :=
  { n with
    callers := n.callers ++ callersOf name edges
    signals := n.signals ++ signalsOf name edges
    continuesAsNew := n.continuesAsNew || continues name edges }

theorem noted_cons (name : String) (e : Edge) (edges : List Edge) (n : Node) :
    noted name (e :: edges) n =
      noted name edges (if name = e.target then e.note n else n) := by
  unfold noted
  rw [callersOf_cons, signalsOf_cons, continues_cons]
  cases e with
  | call caller callee =>
    by_cases same : callee = name
    · subst same
      simp [callerAt, signalAt, target, note]
    · simp [callerAt, signalAt, target, same, Ne.symm same]
  | signal sender goal event =>
    by_cases same : goal = name
    · subst same
      simp [callerAt, signalAt, target, note]
    · simp [callerAt, signalAt, target, same, Ne.symm same]
  | continuation function =>
    by_cases same : function = name
    · subst same
      simp [callerAt, signalAt, target, note]
    · simp [callerAt, signalAt, target, same, Ne.symm same]

/-- Under each name the node is left with the notes of the kept edges that lead to it. -/
theorem get?_applyAll (g : Graph) (edges : List Edge) (name : String) :
    (g.applyAll edges).1.get? name = (g.get? name).map (noted name (g.kept edges)) := by
  induction edges generalizing g with
  | nil =>
    have unchanged : noted name [] = id := by
      funext n
      simp [noted, callersOf, signalsOf, continues]
    simp [applyAll, kept, unchanged]
  | cons e edges ih =>
    rw [applyAll_cons, ih, kept_apply]
    unfold apply
    split
    · rename_i known
      have keeps : g.kept (e :: edges) = e :: g.kept edges := by simp [kept, known]
      rw [keeps, get?_modify, Option.map_map]
      congr 1
      funext n
      exact (noted_cons name e _ n).symm
    · rename_i unknown
      have drops : g.kept (e :: edges) = g.kept edges := by simp [kept, unknown]
      rw [drops]

end Graph

end OrchestrationGraph
