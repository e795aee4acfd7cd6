import OrchestrationGraph.Proofs.Diagram.Line
import OrchestrationGraph.Proofs.Graph.Keyed
import OrchestrationGraph.Proofs.Text.Run
import Mathlib.Data.List.Nodup

/-!
# Every drawn node has an identifier of its own

What is drawn as a node is a function, what fires it from outside, or one of its bindings. The
identifiers join names, types and numbers with dots, and types may hold dots and digits. They still
tell the drawn nodes apart, as names hold no dot, types of triggers do not end with a digit, and
numbers hold nothing else (`Item.eq_of_id_eq`). So a drawable graph declares each of its nodes once and
its arrows join declared nodes (`Drawable.wellDrawn`).
-/

namespace OrchestrationGraph.Diagram

open Text

/-! ### Items -/

inductive Item where
  | function (name : String)
  /-- What fires the function from outside. -/
  | trigger (function type : String)
  /-- A binding with its number among those of the function. -/
  | binding (function type : String) (index : Nat)

namespace Item

def owner : Item → String
  | function name => name
  | trigger name _ => name
  | binding name _ _ => name

def id : Item → List Char
  | function name => name.toList
  | trigger name type => triggerId name type
  | binding name type index => bindingId name type index

/-- The identifier behind the name of the function. -/
def tail : Item → List Char
  | function _ => []
  | trigger _ type => '.' :: type.toList
  | binding _ type index => '.' :: type.toList ++ '.' :: Nat.toDigits 10 index

theorem id_eq (x : Item) : x.id = x.owner.toList ++ x.tail := by
  cases x <;> simp [id, owner, tail, triggerId, bindingId]

structure Plain (x : Item) : Prop where
  owner : '.' ∉ x.owner.toList
  trigger : ∀ name type, x = trigger name type → Binding.isTrigger { type } = true

/-! ### Identifiers are told apart -/

theorem toLower_of_isDigit {c : Char} (digit : c.isDigit = true) : c.toLower = c := by
  unfold Char.toLower
  simp only [Char.isDigit, Bool.and_eq_true, decide_eq_true_eq, UInt32.le_iff_toNat_le] at digit
  split
  · rename_i upper
    have least : 65 ≤ c.val.toNat := upper.1
    have : c.val.toNat ≤ 57 := digit.2
    omega
  · rfl

theorem endsRun_of_isTrigger {type : String} (fires : Binding.isTrigger { type } = true) :
    EndsRun Char.isDigit type.toList.reverse := by
  obtain ⟨front, split⟩ := List.isSuffixOf_iff_suffix.mp fires
  intro c last
  have lowered : (asciiLower type).toList.reverse.head? = some c.toLower := by
    rw [asciiLower, String.toList_map, ← List.map_reverse, List.head?_map, last, Option.map_some]
  have ending : c.toLower = 'r' := by
    rw [← split, List.reverse_append] at lowered
    exact (Option.some.inj lowered).symm
  by_contra digit
  have digit : c.isDigit = true := by simpa using digit
  rw [toLower_of_isDigit digit] at ending
  subst ending
  exact absurd digit (by decide)

theorem run_digits (n : Nat) : Run Char.isDigit (Nat.toDigits 10 n).reverse := fun _ here =>
  Nat.isDigit_of_mem_toDigits (by decide) (by decide) (List.mem_reverse.mp here)

theorem reverse_numbered (l : List Char) (n : Nat) :
    (l ++ '.' :: Nat.toDigits 10 n).reverse = (Nat.toDigits 10 n).reverse ++ '.' :: l.reverse := by
  simp

theorem numbered_inj {l l' : List Char} {i j : Nat}
    (same : l ++ '.' :: Nat.toDigits 10 i = l' ++ '.' :: Nat.toDigits 10 j) : l = l' ∧ i = j := by
  have dot (l : List Char) : EndsRun Char.isDigit ('.' :: l) := endsRun_cons.mpr (by decide)
  -- From behind, the number is the run of digits before the first dot.
  have backwards := congrArg List.reverse same
  rw [reverse_numbered, reverse_numbered] at backwards
  obtain ⟨numbers, rest⟩ := run_unique backwards (run_digits i) (run_digits j) (dot _) (dot _)
  refine ⟨List.reverse_injective (List.cons.inj rest).2, ?_⟩
  have values := congrArg (Nat.ofDigitChars 10 · 0) (List.reverse_injective numbers)
  simpa using values

theorem numbered_ne {l : List Char} (stops : EndsRun Char.isDigit l.reverse) (l' : List Char) (n : Nat) :
    l ≠ l' ++ '.' :: Nat.toDigits 10 n := by
  rintro rfl
  have nonempty : (Nat.toDigits 10 n).reverse ≠ [] := by simp [Nat.toDigits_ne_nil]
  obtain ⟨c, more, digits⟩ := List.exists_cons_of_ne_nil nonempty
  have isDigit : c.isDigit = true := run_digits n c (digits ▸ List.mem_cons_self)
  rw [reverse_numbered, digits, List.cons_append, endsRun_cons, isDigit] at stops
  exact absurd stops (by decide)

theorem endsRun_tail (x : Item) : EndsRun (· ≠ '.') x.tail := by
  cases x <;> simp [EndsRun, tail]

/-- The name and what follows it can be read off an identifier. -/
theorem owner_tail_of_id_eq {x y : Item} (plain : x.Plain) (plain' : y.Plain) (same : x.id = y.id) :
    x.owner = y.owner ∧ x.tail = y.tail := by
  have undotted {x : Item} (plain : x.Plain) : Run (· ≠ '.') x.owner.toList := by
    intro c here
    have : c ≠ '.' := fun dot => plain.owner (dot ▸ here)
    simpa using this
  rw [id_eq, id_eq] at same
  obtain ⟨owners, tails⟩ :=
    run_unique same (undotted plain) (undotted plain') (endsRun_tail x) (endsRun_tail y)
  exact ⟨String.toList_injective owners, tails⟩

theorem eq_of_id_eq {x y : Item} (plain : x.Plain) (plain' : y.Plain) (same : x.id = y.id) : x = y := by
  obtain ⟨owners, tails⟩ := owner_tail_of_id_eq plain plain' same
  cases x with
  | function name =>
    cases y with
    | function name' => exact congrArg function owners
    | trigger name' type' => exact absurd tails.symm (List.cons_ne_nil _ _)
    | binding name' type' index' => exact absurd tails.symm (List.cons_ne_nil _ _)
  | trigger name type =>
    have stops := endsRun_of_isTrigger (plain.trigger name type rfl)
    cases y with
    | function name' => exact absurd tails (List.cons_ne_nil _ _)
    | trigger name' type' =>
      obtain rfl : name = name' := owners
      obtain rfl : type = type' := String.toList_injective (List.cons.inj tails).2
      rfl
    | binding name' type' index' => exact absurd (List.cons.inj tails).2 (numbered_ne stops _ _)
  | binding name type index =>
    cases y with
    | function name' => exact absurd tails (List.cons_ne_nil _ _)
    | trigger name' type' =>
      have stops := endsRun_of_isTrigger (plain'.trigger name' type' rfl)
      exact absurd (List.cons.inj tails).2.symm (numbered_ne stops _ _)
    | binding name' type' index' =>
      obtain rfl : name = name' := owners
      obtain ⟨types, rfl⟩ := numbered_inj (List.cons.inj tails).2
      obtain rfl : type = type' := String.toList_injective types
      rfl

end Item

/-! ### The items of a graph -/

/-- What is drawn for a node: the function, what fires it from outside if no function calls it, and
its bindings that are no triggers. -/
def items (n : Node) : List Item :=
  .function n.name ::
    (if n.callers = [] then n.externalTrigger?.toList else []).map (fun b => .trigger n.name b.type) ++
    (n.bindings.zipIdx.filter fun (b, _) => !b.isTrigger).map fun (b, i) => .binding n.name b.type i

/-- Nodes stand under their own names, which hold no dot, and note functions of the graph only. -/
structure Drawable (g : Graph) : Prop where
  keyed : g.Keyed
  callers_known : ∀ n ∈ g.toList, ∀ c ∈ n.callers, g.contains c = true
  senders_known : ∀ n ∈ g.toList, ∀ s ∈ n.signals, g.contains s.sender = true
  undotted : ∀ name ∈ g.names, '.' ∉ name.toList

variable {g : Graph} {n : Node} {x : Item}

theorem owner_of_mem_items (here : x ∈ items n) : x.owner = n.name := by
  simp only [items, List.cons_append, List.mem_cons, List.mem_append, List.mem_map] at here
  obtain rfl | ⟨b, -, rfl⟩ | ⟨e, -, rfl⟩ := here <;> rfl

theorem trigger_of_mem_items {name type : String} (here : .trigger name type ∈ items n) :
    Binding.isTrigger { type } = true := by
  simp only [items, List.cons_append, List.mem_cons, List.mem_append, List.mem_map] at here
  obtain no | ⟨b, fires, same⟩ | ⟨e, -, no⟩ := here
  · exact Item.noConfusion no
  · split at fires
    · have external : b.isExternal = true := List.find?_some (Option.mem_toList.mp fires)
      obtain ⟨-, rfl⟩ := Item.trigger.inj same
      exact (Bool.and_eq_true_iff.mp external).1
    · exact absurd fires List.not_mem_nil
  · exact Item.noConfusion no

theorem Drawable.plain (d : Drawable g) (node : n ∈ g.toList) (here : x ∈ items n) : x.Plain where
  owner := by
    rw [owner_of_mem_items here]
    refine d.undotted n.name ?_
    rw [← d.keyed.map_name]
    exact List.mem_map_of_mem node
  trigger name type same := trigger_of_mem_items (same ▸ here)

theorem nodup_items (n : Node) : (items n).Nodup := by
  have triggers (l : Option Binding) : (l.toList.map fun b => Item.trigger n.name b.type).Nodup := by
    cases l <;> simp
  have numbers : n.bindings.zipIdx.Pairwise fun a b => a.2 ≠ b.2 := by
    rw [← List.pairwise_map, List.zipIdx_map_snd]
    exact List.nodup_range'
  have bindings : ((n.bindings.zipIdx.filter fun (b, _) => !b.isTrigger).map fun (b, i) =>
      Item.binding n.name b.type i).Nodup := by
    refine List.pairwise_map.mpr ((numbers.filter _).imp ?_)
    rintro a b different same
    exact different (Item.binding.inj same).2.2
  unfold items
  rw [List.cons_append, List.nodup_cons, List.nodup_append']
  refine ⟨by simp, ?_, bindings, ?_⟩
  · split
    · exact triggers _
    · exact List.nodup_nil
  · intro x fires binds
    obtain ⟨b, -, rfl⟩ := List.mem_map.mp fires
    obtain ⟨e, -, no⟩ := List.mem_map.mp binds
    exact Item.noConfusion no

theorem Drawable.nodup_items (d : Drawable g) : (g.toList.flatMap items).Nodup :=
  Graph.nodup_flatMap_of_owner (·.name) Item.owner (fun n _ => Diagram.nodup_items n)
    (fun _ _ _ here => owner_of_mem_items here) d.keyed.names_ne

theorem Drawable.nodup_ids (d : Drawable g) : ((g.toList.flatMap items).map Item.id).Nodup := by
  refine d.nodup_items.map_on ?_
  intro x here y there same
  obtain ⟨n, node, here⟩ := List.mem_flatMap.mp here
  obtain ⟨m, node', there⟩ := List.mem_flatMap.mp there
  exact Item.eq_of_id_eq (d.plain node here) (d.plain node' there) same

/-! ### What is declared and joined -/

def item? : Statement → Option Item
  | .function name _ => some (.function name)
  | .trigger name type _ => some (.trigger name type)
  | .binding name type index _ _ => some (.binding name type index)
  | _ => none

theorem declared_line (s : Statement) : (line s).declared = (item? s).toList.map Item.id := by
  cases s with
  | binding name type index label direction => cases direction <;> rfl
  | _ => rfl

theorem filterMap_triggerStatements (n : Node) : (triggerStatements n).filterMap item? =
    (if n.callers = [] then n.externalTrigger?.toList else []).map
      fun b => .trigger n.name b.type := by
  unfold triggerStatements
  simp only [List.isEmpty_iff]
  split
  · cases n.externalTrigger? <;> rfl
  · rfl

theorem filterMap_bindingStatements (n : Node) : (bindingStatements n).filterMap item? =
    (n.bindings.zipIdx.filter fun (b, _) => !b.isTrigger).map
      fun (b, i) => .binding n.name b.type i := by
  unfold bindingStatements
  rw [List.filterMap_map, ← List.filterMap_eq_map]
  rfl

theorem filterMap_block (n : Node) : (block n).filterMap item? = items n := by
  have calls : (n.callers.map fun caller => Statement.call caller n.name).filterMap item? = [] := by
    simp [item?]
  have signals : (n.signals.map fun s => Statement.signal s.sender s.event n.name).filterMap item? =
      [] := by
    simp [item?]
  have continuation : (if n.continuesAsNew then [Statement.continuation n.name] else []).filterMap
      item? = [] := by
    split <;> rfl
  have function : item? (Statement.function n.name n.kind) = some (.function n.name) := rfl
  unfold block items
  simp only [List.cons_append, List.filterMap_cons_some function, List.filterMap_append, calls, signals,
    continuation, filterMap_triggerStatements, filterMap_bindingStatements, List.append_nil,
    List.nil_append]

theorem declared_lines (g : Graph) :
    (lines g).flatMap Line.declared = ((order g).flatMap items).map Item.id := by
  rw [← funext filterMap_block, ← List.filterMap_flatMap, List.filterMap_eq_flatMap_toList,
    List.map_flatMap, lines, List.flatMap_map]
  simp only [declared_line]
  rfl

def references : Statement → List String
  | .function _ _ => []
  | .call caller callee => [caller, callee]
  | .trigger name _ _ => [name]
  | .binding name _ _ _ _ => [name]
  | .signal sender _ target => [sender, target]
  | .continuation name => [name]

theorem ends_line (s : Statement) : ∀ e ∈ (line s).ends,
    e ∈ (line s).declared ∨ ∃ name ∈ references s, e = name.toList := by
  cases s with
  | function name kind => simp [line, Line.ends]
  | binding name type index label direction =>
    cases direction <;>
      simp [line, Line.ends, Line.declared, Mention.declared, reference, references, bindingMention]
  | _ => simp [line, Line.ends, Line.declared, Mention.declared, reference, references]

theorem exists_trigger {s : Statement} (here : s ∈ triggerStatements n) :
    ∃ type label, s = .trigger n.name type label := by
  unfold triggerStatements at here
  split at here
  · cases fires : n.externalTrigger? with
    | none => simp [fires] at here
    | some b => exact ⟨b.type, b.label, by simpa [fires] using here⟩
  · exact absurd here List.not_mem_nil

theorem of_mem_references {s : Statement} (here : s ∈ block n) {name : String}
    (refers : name ∈ references s) :
    name = n.name ∨ name ∈ n.callers ∨ ∃ signal ∈ n.signals, signal.sender = name := by
  simp only [block, List.cons_append, List.mem_cons, List.mem_append, List.mem_map] at here
  obtain rfl | (((⟨caller, calls, rfl⟩ | fires) | binds) | ⟨signal, raised, rfl⟩) | again := here
  · simp [references] at refers
  · obtain rfl | rfl : name = caller ∨ name = n.name := by simpa [references] using refers
    · exact .inr (.inl calls)
    · exact .inl rfl
  · obtain ⟨type, label, rfl⟩ := exists_trigger fires
    exact .inl (List.mem_singleton.mp refers)
  · obtain ⟨e, -, rfl⟩ := List.mem_map.mp binds
    exact .inl (List.mem_singleton.mp refers)
  · obtain rfl | rfl : name = signal.sender ∨ name = n.name := by simpa [references] using refers
    · exact .inr (.inr ⟨signal, raised, rfl⟩)
    · exact .inl rfl
  · split at again
    · obtain rfl := List.mem_singleton.mp again
      exact .inl (List.mem_singleton.mp refers)
    · exact absurd again List.not_mem_nil

theorem Drawable.contains_of_mem_references (d : Drawable g) (node : n ∈ g.toList) {s : Statement}
    (here : s ∈ block n) {name : String} (refers : name ∈ references s) : g.contains name = true := by
  obtain rfl | calls | ⟨signal, raised, rfl⟩ := of_mem_references here refers
  · obtain ⟨name, found⟩ := Graph.mem_toList.mp node
    rw [d.keyed name n found]
    exact Graph.contains_iff.mpr ⟨n, found⟩
  · exact d.callers_known n node name calls
  · exact d.senders_known n node signal raised

theorem Drawable.mem_ids (d : Drawable g) {name : String} (known : g.contains name = true) :
    name.toList ∈ (g.toList.flatMap items).map Item.id := by
  obtain ⟨n, found⟩ := Graph.contains_iff.mp known
  obtain rfl := d.keyed name n found
  refine List.mem_map.mpr ⟨.function n.name, ?_, rfl⟩
  exact List.mem_flatMap.mpr ⟨n, Graph.mem_toList.mpr ⟨_, found⟩, List.mem_cons_self⟩

/-- The text consists of lines that declare each item once. Arrows join declared items, and labels
leave their quotes. -/
structure WellDrawn (g : Graph) : Prop where
  text : render g =
    String.ofList ((header :: (lines g).map Line.text).flatMap fun l => l ++ ['\n'])
  distinct : ((lines g).flatMap Line.declared).Nodup
  declared : ((lines g).flatMap Line.declared).Perm ((g.toList.flatMap items).map Item.id)
  joined : ∀ l ∈ lines g, ∀ e ∈ l.ends, e ∈ (lines g).flatMap Line.declared
  labels : ∀ l ∈ lines g, ∀ label ∈ l.labels, '"' ∉ label

theorem Drawable.wellDrawn (d : Drawable g) : WellDrawn g := by
  have same : ((lines g).flatMap Line.declared).Perm ((g.toList.flatMap items).map Item.id) := by
    rw [declared_lines]
    exact ((List.mergeSort_perm g.toList comesBefore).flatMap_right items).map Item.id
  refine ⟨render_eq_lines g, same.symm.nodup d.nodup_ids, same, ?_, ?_⟩
  · intro l here e joined
    obtain ⟨s, stated, rfl⟩ := List.mem_map.mp here
    obtain ⟨n, node, stated⟩ := List.mem_flatMap.mp stated
    obtain own | ⟨name, refers, rfl⟩ := ends_line s e joined
    · exact List.mem_flatMap.mpr ⟨line s, here, own⟩
    · rw [same.mem_iff]
      exact d.mem_ids (d.contains_of_mem_references (List.mem_mergeSort.mp node) stated refers)
  · intro l here label
    obtain ⟨s, -, rfl⟩ := List.mem_map.mp here
    exact not_mem_label

/-- Types with dots and digits, alike and unlike, next to each other. -/
def dottedNodes : List Node := [
  { name := "Start"
    bindings := [{ type := "1.httpTrigger" }, { type := "queue", direction := .output },
      { type := "queue.1" }, { type := "queue", direction := .both }] },
  { name := "Ship"
    bindings := [{ type := "orchestrationTrigger" }, { type := "1.queue" }]
    callers := ["Start"]
    signals := [⟨"Start", "the \"go\""⟩]
    continuesAsNew := true }]

theorem drawable_dotted : Drawable (Graph.ofList dottedNodes) where
  keyed := Graph.keyed_ofList dottedNodes
  callers_known := by decide +kernel
  senders_known := by decide +kernel
  undotted := by decide +kernel

theorem wellDrawn_dotted : Drawable (Graph.ofList dottedNodes) ∧ WellDrawn (Graph.ofList dottedNodes) :=
  ⟨drawable_dotted, drawable_dotted.wellDrawn⟩

end OrchestrationGraph.Diagram
