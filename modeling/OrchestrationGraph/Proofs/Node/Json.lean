import OrchestrationGraph.Node.Json
import OrchestrationGraph.Proofs.Json.Reader

/-!
# Nodes recovered from JSON

A binding is written as one object with its properties beside its type and its direction, so that it
is recovered only if no property has one of these two names (`Binding.Recoverable`).
-/

namespace OrchestrationGraph

open Json (bind_recovers Fault Outline Reader Recovers Value foldWritten foldWritten_cons
  foldWritten_append foldWritten_entries recovers_shape)

variable {room : Nat}

/-! ### Bindings -/

theorem Direction.ofWord_name (d : Direction) : ofWord d.name = d := by
  cases d <;> decide +kernel

theorem recovers_direction (d : Direction) : Recovers Direction.reader (.text d.name) d := by
  intro room _
  show Except.ok (Direction.ofWord d.name) = .ok d
  rw [Direction.ofWord_name]

namespace Binding

/-- No property is taken for the type or the direction, and objects among the properties are kept in
order, as the properties themselves are. -/
structure Recoverable (b : Binding) : Prop where
  noType : "type" ∉ b.properties.keys
  noDirection : "direction" ∉ b.properties.keys
  ordered : ∀ v ∈ b.properties.values, v.Ordered

variable {b : Binding}

theorem readMember_property {p : Partial} {name : String} {o : Outline} (noType : name ≠ "type")
    (noDirection : name ≠ "direction") (d : Dictionary Value) :
    Partial.readMember room { p with properties := d } name o =
      (do return d.insert name (← Reader.value room o) : Except Fault (Dictionary Value)).map
        fun d => { p with properties := d } := by
  rw [Partial.readMember, if_neg noType, if_neg noDirection]
  cases Reader.value room o <;> rfl

theorem foldWritten_properties (recoverable : b.Recoverable)
    (space : Value.membersDepth b.properties.entries < room) (p : Partial) :
    foldWritten (Partial.readMember room) { p with properties := ∅ } b.properties.entries =
      .ok { p with properties := b.properties } := by
  have same : b.properties.entries = b.properties.entries.map fun e => (e.1, id e.2) := by simp
  have sorted : ((∅ : Dictionary Value).entries ++ b.properties.entries).Pairwise
      fun a b => a.1 < b.1 := b.properties.sorted
  have recovers : ∀ e ∈ b.properties.entries, Recovers Reader.value (id e.2) e.2 := by
    intro e here
    exact Json.recovers_value (recoverable.ordered e.2 (List.mem_map_of_mem here))
  have read := foldWritten_entries sorted recovers (same ▸ space)
  rw [← same] at read
  refine Json.foldWritten_part (fun d => { p with properties := d }) ?_ read
  intro m here d
  have known : m.1 ∈ b.properties.keys := List.mem_map_of_mem here
  have noType : m.1 ≠ "type" := fun type => recoverable.noType (type ▸ known)
  have noDirection : m.1 ≠ "direction" := fun direction => recoverable.noDirection (direction ▸ known)
  exact readMember_property noType noDirection d

theorem recovers_binding (recoverable : b.Recoverable) :
    Recovers reader b.toJson b := by
  have read : Recovers (Reader.foldMembers "struct BindingDescriptor" Partial.readMember {}) b.toJson
      ⟨some b.type, some b.direction, b.properties⟩ := by
    refine Json.recovers_foldMembers _ fun room space => ?_
    have type : Partial.readMember room {} "type" (Value.text b.type).outline =
        .ok { type := some b.type } := rfl
    have direction : Partial.readMember room { type := some b.type } "direction"
        (Value.text b.direction.name).outline =
          .ok { type := some b.type, direction := some b.direction } := by
      have word := recovers_direction b.direction room (Nat.zero_lt_of_lt space)
      show (Direction.reader room (Value.text b.direction.name).outline >>= _) = _
      rw [word]
      rfl
    rw [foldWritten_cons type, foldWritten_cons direction]
    exact foldWritten_properties recoverable (by simpa [Value.membersDepth, Value.depth] using space)
      ⟨some b.type, some b.direction, ∅⟩
  intro room space
  have partially := read room space
  rw [reader, partially]
  rfl

end Binding

/-! ### Signals -/

theorem recovers_signal (s : Signal) : Recovers Signal.shape.reader s.toJson s := by
  refine recovers_shape (s := ⟨some s.sender, some s.event⟩) ?_ rfl
  intro room _
  have sender : Signal.shape.readMember room {} "name" (Value.text s.sender).outline =
      .ok { sender := some s.sender } := rfl
  have event : Signal.shape.readMember room { sender := some s.sender } "signalName"
      (Value.text s.event).outline = .ok ⟨some s.sender, some s.event⟩ := rfl
  exact (foldWritten_cons sender _).trans (foldWritten_cons event _)

namespace Node

variable {n : Node}

/-- A field that is left out stays unset, and one that is there is set to something. -/
theorem foldWritten_optionalMember {β : Type} (room : Nat) (name : String) (toJson : β → Value)
    (set : Partial → Option (Option β) → Partial) (s : Partial) (x : Option β)
    (unset : set s none = s)
    (read : ∀ b, x = some b →
      shape.readMember room s name (toJson b).outline = .ok (set s (some (some b)))) :
    foldWritten (shape.readMember room) s (optionalMember name (x.map toJson)) =
      .ok (set s (x.map some)) := by
  cases x with
  | none =>
    show Except.ok s = .ok (set s none)
    rw [unset]
  | some b =>
    show foldWritten _ s [(name, toJson b)] = _
    rw [foldWritten_cons (read b rfl)]
    rfl

/-- The members that stand in every node. -/
def requiredMembers (n : Node) : List (String × Value) := [
  ("name", .text n.name),
  ("bindings", .list (n.bindings.map Binding.toJson)),
  ("isCalledBy", .ofTexts n.callers),
  ("isSignalledBy", .list (n.signals.map Signal.toJson)),
  ("isCalledByItself", .bool n.continuesAsNew)]

/-- What these members tell of the node. -/
def required (n : Node) : Partial :=
  { name := some n.name, bindings := some n.bindings, callers := some n.callers
    signals := some n.signals, continuesAsNew := some n.continuesAsNew }

theorem foldWritten_required (recoverable : ∀ b ∈ n.bindings, b.Recoverable)
    (space : Value.membersDepth n.requiredMembers < room) :
    foldWritten (shape.readMember room) {} n.requiredMembers = .ok n.required := by
  have inside : ∀ name v, (name, v) ∈ n.requiredMembers → v.depth < room :=
    fun name _ here => Value.depth_lt_of_mem name here space
  have bindings : Recovers (Reader.list Binding.reader) (.list (n.bindings.map Binding.toJson))
      n.bindings :=
    Json.recovers_list fun b here => Binding.recovers_binding (recoverable b here)
  have callers : Recovers (Reader.list Reader.text) (.ofTexts n.callers) n.callers :=
    Json.recovers_list fun s _ => Json.recovers_text s
  have signals : Recovers (Reader.list Signal.shape.reader) (.list (n.signals.map Signal.toJson))
      n.signals :=
    Json.recovers_list fun s _ => recovers_signal s
  have afterName : shape.readMember room {} "name" (Value.text n.name).outline =
      .ok { name := some n.name } := rfl
  have afterBindings : shape.readMember room { name := some n.name } "bindings"
      (Value.list (n.bindings.map Binding.toJson)).outline =
        .ok { name := some n.name, bindings := some n.bindings } :=
    bind_recovers bindings (inside "bindings" _ (by simp [requiredMembers]))
      fun bs => ({ name := some n.name, bindings := some bs } : Partial)
  have afterCallers : shape.readMember room { name := some n.name, bindings := some n.bindings }
      "isCalledBy" (Value.ofTexts n.callers).outline =
        .ok { name := some n.name, bindings := some n.bindings, callers := some n.callers } :=
    bind_recovers callers (inside "isCalledBy" _ (by simp [requiredMembers]))
      fun cs => ({ name := some n.name, bindings := some n.bindings, callers := some cs } : Partial)
  have afterSignals : shape.readMember room
      { name := some n.name, bindings := some n.bindings, callers := some n.callers }
      "isSignalledBy" (Value.list (n.signals.map Signal.toJson)).outline =
        .ok { n.required with continuesAsNew := none } :=
    bind_recovers signals (inside "isSignalledBy" _ (by simp [requiredMembers]))
      fun ss => ({ n.required with signals := some ss, continuesAsNew := none } : Partial)
  have afterFlag : shape.readMember room { n.required with continuesAsNew := none }
      "isCalledByItself" (Value.bool n.continuesAsNew).outline = .ok n.required := rfl
  rw [requiredMembers, foldWritten_cons afterName, foldWritten_cons afterBindings,
    foldWritten_cons afterCallers, foldWritten_cons afterSignals, foldWritten_cons afterFlag]
  rfl

/-- What a whole node tells. -/
def complete (n : Node) : Partial :=
  { n.required with file := n.file.map some, position := n.position.map some, line := n.line.map some }

theorem foldWritten_place (room : Nat) (n : Node) :
    foldWritten (shape.readMember room) n.required
      (optionalMember "filePath" (n.file.map .text) ++ (optionalMember "pos" (n.position.map .ofNat) ++
        optionalMember "lineNr" (n.line.map .ofNat))) = .ok n.complete := by
  have file := foldWritten_optionalMember room "filePath" Value.text
    (fun s x => { s with file := x }) n.required n.file rfl fun _ _ => rfl
  have position := foldWritten_optionalMember room "pos" Value.ofNat
    (fun s x => { s with position := x }) { n.required with file := n.file.map some } n.position rfl
    fun _ _ => rfl
  have line := foldWritten_optionalMember room "lineNr" Value.ofNat
    (fun s x => { s with line := x })
    { n.required with file := n.file.map some, position := n.position.map some } n.line rfl
    fun _ _ => rfl
  rw [foldWritten_append file, foldWritten_append position, line]
  rfl

theorem join_map_some {β : Type} (x : Option β) : (x.map some).join = x := by
  cases x <;> rfl

theorem finish_complete (n : Node) : n.complete.finish = .ok n := by
  show Except.ok { n with
    file := (n.file.map some).join
    position := (n.position.map some).join
    line := (n.line.map some).join } = .ok n
  rw [join_map_some, join_map_some, join_map_some]

theorem recovers_node (recoverable : ∀ b ∈ n.bindings, b.Recoverable) : Recovers reader n.toJson n := by
  have written : n.toJson = .object (n.requiredMembers ++ (optionalMember "filePath" (n.file.map .text) ++
      (optionalMember "pos" (n.position.map .ofNat) ++
        optionalMember "lineNr" (n.line.map .ofNat)))) := by
    rw [← List.append_assoc, ← List.append_assoc]
    rfl
  rw [written]
  refine recovers_shape (s := n.complete) ?_ (finish_complete n)
  intro room space
  rw [Value.membersDepth_append, Nat.max_lt] at space
  have front := foldWritten_required recoverable space.1
  exact (foldWritten_append front _).trans (foldWritten_place room n)

end Node

end OrchestrationGraph
