import Mathlib.Data.Finset.Card
import OrchestrationGraph.Proofs.Graph.WellTyped
import OrchestrationGraph.Proofs.Text.ByteOrder

/-!
# Graphs and what was done to them

Whatever is done to a graph that starts empty, it keeps a record of the nodes that were inserted
(`Records`): each operation preserves that (`Records.perform`), and so does a run of operations
(`Records.after`). All operations but insertion change the nodes under their names and nothing else
(`Grows`). What is refused leaves no trace (`perform_refused`).
-/

namespace OrchestrationGraph

namespace Graph

open Text (bytes)

variable {g g' : Graph}

/-! ### Operations -/

inductive Operation where
  | insert (n : Node) (edgeless : n.Edgeless)
  /-- Notes one edge: a caller, a signal or a continuation. -/
  | apply (e : Edge)
  | applyAll (edges : List Edge)
  | declareBindings (sources : Dictionary Source)
  | addBindings (name : String) (bs : List Binding)

inductive Answer where
  | told (done : Bool)
  | counted (number : Nat)

def perform (g : Graph) : Operation → Graph × Answer
  | .insert n _ => (g.insert n).map id .told
  | .apply e => (g.apply e).map id .told
  | .applyAll edges => (g.applyAll edges).map id .counted
  | .declareBindings sources => (g.declareBindings sources).map id .counted
  | .addBindings name bs => (g.addBindings name bs).map id .told

def after (g : Graph) (ops : List Operation) : Graph :=
  ops.foldl (fun (g : Graph) op => (g.perform op).1) g

/-- The node that an operation inserts or tries to insert. -/
def Operation.inserted? : Operation → Option Node
  | insert n _ => some n
  | _ => none

/-- The nodes that a run inserts or tries to insert, in order. -/
def inserted (ops : List Operation) : List Node := ops.filterMap Operation.inserted?

/-! ### What is refused -/

/-- An operation that answers no leaves the graph as it is. -/
theorem perform_refused (g : Graph) (op : Operation) (refused : (g.perform op).2 = .told false) :
    (g.perform op).1 = g := by
  cases op with
  | insert n _ =>
    have no : (g.insert n).2 = false := Answer.told.inj refused
    show (g.insert n).1 = g
    unfold Graph.insert at no ⊢
    split at no
    · rename_i taken
      rw [if_pos taken]
    · simp at no
  | apply e =>
    have no : (g.apply e).2 = false := Answer.told.inj refused
    show (g.apply e).1 = g
    unfold Graph.apply at no ⊢
    split at no
    · simp at no
    · rename_i unknown
      rw [if_neg unknown]
  | applyAll edges => exact Answer.noConfusion refused
  | declareBindings sources => exact Answer.noConfusion refused
  | addBindings name bs => exact modify_absent (Answer.told.inj refused) _

/-! ### Changes of nodes under their names -/

/-- A node changes by bindings at the end and by notes that name functions of the graph. -/
structure Grows (g : Graph) (before after : Node) : Prop where
  name : after.name = before.name
  bindings : before.bindings <+: after.bindings
  callers : ∀ c ∈ after.callers, c ∈ before.callers ∨ g.contains c = true
  senders : ∀ s ∈ after.signals, s ∈ before.signals ∨ g.contains s.sender = true

theorem Grows.refl (g : Graph) (n : Node) : g.Grows n n :=
  ⟨rfl, List.prefix_rfl, fun _ => .inl, fun _ => .inl⟩

theorem grows_extended (g : Graph) (bs : List Binding) (n : Node) : g.Grows n (extended bs n) where
  name := rfl
  bindings := List.prefix_append ..
  callers _ here := .inl here
  senders _ here := .inl here

theorem grows_noted (g : Graph) (name : String) (edges : List Edge) (n : Node) :
    g.Grows n (noted name (g.kept edges) n) where
  name := rfl
  bindings := List.prefix_rfl
  callers c here := by
    refine (List.mem_append.mp here).imp_right fun new => ?_
    have ends := (List.mem_filter.mp (Edge.mem_callersOf.mp new)).2
    exact List.all_eq_true.mp ends c (by simp [Edge.ends])
  senders s here := by
    refine (List.mem_append.mp here).imp_right fun new => ?_
    have ends := (List.mem_filter.mp (Edge.mem_signalsOf.mp new)).2
    exact List.all_eq_true.mp ends s.sender (by simp [Edge.ends])

/-- Every operation but insertion makes the nodes grow under their names. -/
theorem perform_grows (g : Graph) (op : Operation) (changing : op.inserted? = none) :
    ∃ f : String → Node → Node, (∀ name n, g.Grows n (f name n)) ∧
      ∀ name, (g.perform op).1.get? name = (g.get? name).map (f name) := by
  cases op with
  | insert n _ => simp [Operation.inserted?] at changing
  | apply e =>
    exact ⟨fun name => noted name (g.kept [e]), fun name n => grows_noted g name [e] n,
      get?_applyAll g [e]⟩
  | applyAll edges =>
    exact ⟨fun name => noted name (g.kept edges), fun name n => grows_noted g name edges n,
      get?_applyAll g edges⟩
  | declareBindings sources =>
    exact ⟨_, fun name n => grows_extended g _ n, get?_declareEach g _⟩
  | addBindings key bs =>
    refine ⟨fun name n => if name = key then extended bs n else n, ?_,
      fun name => get?_modify g key name _⟩
    intro name n
    dsimp only
    split
    · exact grows_extended g bs n
    · exact .refl g n

/-! ### The record of insertions -/

/-- The graph has a node for each name that was inserted. It goes back to the first that was inserted
under the name and notes functions of the graph only. -/
structure Records (g : Graph) (past : List Node) : Prop where
  keyed : g.Keyed
  contains_iff : ∀ name, g.contains name = true ↔ name ∈ past.map (·.name)
  origin : ∀ name n, g.get? name = some n → ∃ first,
    past.find? (fun m => m.name = name) = some first ∧ first.bindings <+: n.bindings
  callers : ∀ name n, g.get? name = some n → ∀ c ∈ n.callers, g.contains c = true
  senders : ∀ name n, g.get? name = some n → ∀ s ∈ n.signals, g.contains s.sender = true

variable {past : List Node}

theorem records_empty : Records {} [] where
  keyed := keyed_empty
  contains_iff name := by simp [Graph.contains_iff, get?_empty]
  origin name n found := by simp [get?_empty] at found
  callers name n found := by simp [get?_empty] at found
  senders name n found := by simp [get?_empty] at found

theorem Records.changed (r : g.Records past) {f : String → Node → Node}
    (grows : ∀ name n, g.Grows n (f name n))
    (changed : ∀ name, g'.get? name = (g.get? name).map (f name)) : g'.Records past := by
  have known (name : String) : g'.contains name = g.contains name := contains_of_get?_map (changed name)
  have before {name : String} {n : Node} (found : g'.get? name = some n) :
      ∃ n₀, g.get? name = some n₀ ∧ g.Grows n₀ n := by
    rw [changed] at found
    obtain ⟨n₀, before, rfl⟩ := Option.map_eq_some_iff.mp found
    exact ⟨n₀, before, grows name n₀⟩
  constructor
  case keyed =>
    intro name n found
    obtain ⟨n₀, found, grown⟩ := before found
    exact grown.name.trans (r.keyed name n₀ found)
  case contains_iff =>
    intro name
    rw [known, r.contains_iff]
  case origin =>
    intro name n found
    obtain ⟨n₀, found, grown⟩ := before found
    obtain ⟨first, isFirst, starts⟩ := r.origin name n₀ found
    exact ⟨first, isFirst, starts.trans grown.bindings⟩
  case callers =>
    intro name n found c here
    obtain ⟨n₀, found, grown⟩ := before found
    rw [known]
    exact (grown.callers c here).elim (r.callers name n₀ found c) id
  case senders =>
    intro name n found s here
    obtain ⟨n₀, found, grown⟩ := before found
    rw [known]
    exact (grown.senders s here).elim (r.senders name n₀ found s) id

theorem Records.insert (r : g.Records past) {n : Node} (edgeless : n.Edgeless) :
    (g.insert n).1.Records (past ++ [n]) := by
  -- A node of the new graph is the new one or was there before.
  have before {name : String} {m : Node} (found : (g.insert n).1.get? name = some m) :
      (g.contains name = false ∧ n.name = name ∧ n = m) ∨ g.get? name = some m := by
    rw [get?_insert] at found
    split at found
    · rename_i fresh
      exact .inl ⟨fresh.2 ▸ fresh.1, fresh.2, Option.some.inj found⟩
    · exact .inr found
  have stays {name : String} (known : g.contains name = true) :
      (g.insert n).1.contains name = true :=
    (contains_insert g n name).mpr (.inl known)
  constructor
  case keyed => exact r.keyed.insert n
  case contains_iff =>
    intro name
    rw [contains_insert, r.contains_iff]
    simp [eq_comm]
  case origin =>
    intro name m found
    rw [List.find?_append]
    obtain ⟨absent, own, rfl⟩ | found := before found
    · -- A name that was inserted before would be taken.
      have none : past.find? (fun m => m.name = name) = none := by
        rw [List.find?_eq_none]
        intro m there same
        have known := (r.contains_iff name).mpr (List.mem_map.mpr ⟨m, there, by simpa using same⟩)
        simp [known] at absent
      exact ⟨n, by simp [none, own], List.prefix_rfl⟩
    · obtain ⟨first, isFirst, starts⟩ := r.origin name m found
      exact ⟨first, by simp [isFirst], starts⟩
  case callers =>
    intro name m found c here
    obtain ⟨-, -, rfl⟩ | found := before found
    · simp [edgeless.1] at here
    · exact stays (r.callers name m found c here)
  case senders =>
    intro name m found s here
    obtain ⟨-, -, rfl⟩ | found := before found
    · simp [edgeless.2.1] at here
    · exact stays (r.senders name m found s here)

theorem Records.perform (r : g.Records past) (op : Operation) :
    (g.perform op).1.Records (past ++ op.inserted?.toList) := by
  cases inserted : op.inserted? with
  | some n =>
    cases op with
    | insert m edgeless =>
      obtain rfl := Option.some.inj inserted
      exact r.insert edgeless
    | _ => simp [Operation.inserted?] at inserted
  | none =>
    obtain ⟨f, grows, changed⟩ := perform_grows g op inserted
    rw [Option.toList_none, List.append_nil]
    exact r.changed grows changed

theorem Records.after (r : g.Records past) (ops : List Operation) :
    (g.after ops).Records (past ++ inserted ops) := by
  induction ops generalizing g past with
  | nil => simpa [Graph.after, inserted] using r
  | cons op ops ih =>
    have split : inserted (op :: ops) = op.inserted?.toList ++ inserted ops := by
      unfold inserted
      cases isInserted : op.inserted? <;> simp [isInserted]
    rw [split, ← List.append_assoc]
    exact ih (r.perform op)

theorem Records.size_eq (r : g.Records past) : g.size = (past.map (·.name)).toFinset.card := by
  have same : g.names.toFinset = (past.map (·.name)).toFinset := by
    ext name
    rw [List.mem_toFinset, List.mem_toFinset, ← r.contains_iff name]
    exact Dictionary.contains_iff.symm
  rw [← same, List.toFinset_card_of_nodup (nodup_names g)]
  exact (List.length_map ..).symm

theorem names_ascending (g : Graph) : g.names.Pairwise fun a b => bytes a < bytes b :=
  (Dictionary.keys_sorted g.nodes).imp Text.bytes_lt

/-- After every run from the empty graph the names ascend by their bytes, each node stands under its
own name, there are as many nodes as names were inserted, each node has the bindings of the first
inserted under its name at the front, and all functions noted are in the graph. A further operation
that answers no changes nothing. -/
theorem history_after_empty (ops : List Operation) :
    ((after {} ops).names.Pairwise fun a b => bytes a < bytes b) ∧
      (after {} ops).Keyed ∧
      (after {} ops).size = ((inserted ops).map (·.name)).toFinset.card ∧
      (∀ name n, (after {} ops).get? name = some n →
        (∃ first, (inserted ops).find? (fun m => m.name = name) = some first ∧
          first.bindings <+: n.bindings) ∧
        (∀ c ∈ n.callers, (after {} ops).contains c = true) ∧
        ∀ s ∈ n.signals, (after {} ops).contains s.sender = true) ∧
      ∀ op, ((after {} ops).perform op).2 = .told false →
        ((after {} ops).perform op).1 = after {} ops := by
  have r : (after {} ops).Records (inserted ops) := by simpa using records_empty.after ops
  exact ⟨names_ascending _, r.keyed, r.size_eq,
    fun name n found => ⟨r.origin name n found, r.callers name n found, r.senders name n found⟩,
    perform_refused _⟩

end Graph

end OrchestrationGraph
