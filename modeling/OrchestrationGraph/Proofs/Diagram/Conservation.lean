import OrchestrationGraph.Proofs.Binding.Label
import OrchestrationGraph.Proofs.Diagram.Line
import OrchestrationGraph.Proofs.Diagram.Reading
import OrchestrationGraph.Proofs.Graph.Keyed
import OrchestrationGraph.Proofs.Text.ByteOrder
import OrchestrationGraph.Proofs.Text.Pieces

/-!
# The text of a flowchart tells the whole graph

If no text in a graph breaks a line, each statement stands on a line of its own, and each line can be
read in one way only. So nothing is lost and nothing is told twice: for each kind of line there are
as many of it as the graph has entries that it tells of (`Printable.conserved`). The blocks of entry
points come first, and within both groups names ascend by their bytes (`order_eq`).
-/

namespace OrchestrationGraph.Diagram

open Text (bytes piecesBy piecesBy_lines)

variable {g : Graph} {n : Node}

/-! ### Statements as they are read -/

/-- How what fires a function is drawn, behind the name of the function and a dot. -/
def triggerDrawing (type label : String) : List Char :=
  type.toList ++ '>' :: quotedLabel label ++ "]:::".toList ++ type.toList

/-- How a binding is drawn, behind the name of the function and a dot. -/
def bindingDrawing (type : String) (index : Nat) (label : String) : List Char :=
  type.toList ++ '.' :: Nat.toDigits 10 index ++ ['(', '['] ++ quotedLabel label ++ "]):::".toList ++
    type.toList

/-- The arrow of a binding leads from where its data comes to where it goes. -/
def bound (owner drawing function : List Char) : Direction → Reading
  | .input => .input owner drawing function
  | .output => .output function owner drawing
  | .both => .both function owner drawing

def functionForm (name : String) (kind : Node.Kind) : List Char :=
  (outline kind).1 ++ quotedLabel name ++ (outline kind).2

def reading : Statement → Reading
  | .function name kind => .function name.toList (functionForm name kind)
  | .call caller callee => .call caller.toList callee.toList
  | .trigger name type label => .trigger name.toList (triggerDrawing type label) name.toList
  | .binding name type index label direction =>
    bound name.toList (bindingDrawing type index label) name.toList direction
  | .signal sender event target => .signal sender.toList (escaped event) target.toList
  | .continuation name => .continuation name.toList name.toList

theorem text_reading (s : Statement) : (reading s).text = s.render := by
  cases s with
  | binding name type index label direction =>
    cases direction <;>
      simp [reading, bound, Reading.text, Statement.render, bindingNode, bindingId, triggerId,
        bindingDrawing]
  | signal sender event target =>
    have start : "signal: ".toList.flatMap escapedChar = "signal: ".toList := by decide
    have split : escaped ("signal: " ++ event) = "signal: ".toList ++ escaped event := by
      rw [escaped, String.toList_append, List.flatMap_append, start, escaped]
    simp [reading, Reading.text, Statement.render, quotedLabel, split]
  | _ =>
    simp [reading, Reading.text, Statement.render, functionForm, triggerDrawing, triggerId]

/-! ### Lines -/

/-- What holds of every statement that a node gives holds throughout its block. -/
theorem forall_mem_block {P : Statement → Prop} (function : P (.function n.name n.kind))
    (calls : ∀ c ∈ n.callers, P (.call c n.name))
    (triggers : ∀ b ∈ n.bindings, P (.trigger n.name b.type b.label))
    (bindings : ∀ b ∈ n.bindings, ∀ i, P (.binding n.name b.type i b.label b.direction))
    (signals : ∀ s ∈ n.signals, P (.signal s.sender s.event n.name))
    (continuation : P (.continuation n.name)) : ∀ s ∈ block n, P s := by
  intro s here
  simp only [block, List.cons_append, List.mem_cons, List.mem_append, List.mem_map] at here
  obtain rfl | (((⟨c, there, rfl⟩ | fires) | binds) | ⟨signal, there, rfl⟩) | again := here
  · exact function
  · exact calls c there
  · unfold triggerStatements at fires
    split at fires
    · cases external : n.externalTrigger? with
      | none => simp [external] at fires
      | some b =>
        obtain rfl : s = .trigger n.name b.type b.label := by simpa [external] using fires
        exact triggers b (List.mem_of_find?_eq_some external)
    · exact absurd fires List.not_mem_nil
  · obtain ⟨⟨b, i⟩, numbered, rfl⟩ := List.mem_map.mp binds
    exact bindings b (List.fst_mem_of_mem_zipIdx (List.mem_filter.mp numbered).1) i
  · exact signals signal there
  · split at again
    · exact List.mem_singleton.mp again ▸ continuation
    · exact absurd again List.not_mem_nil

/-- All functions that the graph mentions have names as hosts admit them, and no text in it breaks a
line. -/
structure Printable (g : Graph) : Prop where
  keyed : g.Keyed
  names : ∀ n ∈ g.toList, IsName n.name.toList
  callers : ∀ n ∈ g.toList, ∀ c ∈ n.callers, IsName c.toList
  senders : ∀ n ∈ g.toList, ∀ s ∈ n.signals, IsName s.sender.toList
  events : ∀ n ∈ g.toList, ∀ s ∈ n.signals, '\n' ∉ s.event.toList
  bindings : ∀ n ∈ g.toList, ∀ b ∈ n.bindings, b.OneLine

theorem plain_bound {owner drawing function : List Char} (isName : IsName owner)
    (isName' : IsName function) (direction : Direction) :
    (bound owner drawing function direction).Plain := by
  cases direction
  · exact ⟨isName, isName'⟩
  · exact ⟨isName', isName⟩
  · exact ⟨isName', isName⟩

theorem Printable.plain (p : Printable g) {s : Statement} (here : s ∈ statements g) :
    (reading s).Plain := by
  obtain ⟨n, node, here⟩ := List.mem_flatMap.mp here
  have node := List.mem_mergeSort.mp node
  have name := p.names n node
  refine forall_mem_block (P := fun s => (reading s).Plain) ?function ?calls ?triggers ?bindings
    ?signals ?continuation s here
  case function =>
    refine ⟨name, ?_⟩
    cases n.kind <;> simp [functionForm, outline]
  case calls => exact fun c there => ⟨p.callers n node c there, name⟩
  case triggers => exact fun _ _ => ⟨name, name⟩
  case bindings => exact fun _ _ _ => plain_bound name name _
  case signals => exact fun signal there => ⟨p.senders n node signal there, name⟩
  case continuation => exact ⟨name, name⟩

theorem IsName.no_break {name : List Char} (isName : IsName name) : '\n' ∉ name :=
  isName.run.not_mem (by decide)

theorem no_break_escaped {label : String} (one : '\n' ∉ label.toList) : '\n' ∉ escaped label := by
  intro broken
  obtain ⟨c, here, broken⟩ := List.mem_flatMap.mp broken
  unfold escapedChar at broken
  split at broken
  · revert broken
    decide
  · obtain rfl := List.mem_singleton.mp broken
    exact one here

theorem no_break_quotedLabel {label : String} (one : '\n' ∉ label.toList) :
    '\n' ∉ quotedLabel label := by
  simp [quotedLabel, no_break_escaped one]

theorem no_break_digits (i : Nat) : '\n' ∉ Nat.toDigits 10 i := fun broken =>
  absurd (Nat.isDigit_of_mem_toDigits (by decide) (by decide) broken) (by decide)

theorem Printable.no_break (p : Printable g) {s : Statement} (here : s ∈ statements g) :
    '\n' ∉ s.render := by
  obtain ⟨n, node, here⟩ := List.mem_flatMap.mp here
  have node := List.mem_mergeSort.mp node
  have name := (p.names n node).no_break
  refine forall_mem_block (P := fun s => '\n' ∉ s.render) ?function ?calls ?triggers ?bindings
    ?signals ?continuation s here
  case function =>
    cases n.kind <;> simp [Statement.render, outline, name, no_break_quotedLabel name]
  case calls =>
    intro c there
    simp [Statement.render, name, (p.callers n node c there).no_break]
  case triggers =>
    intro b there
    have one := p.bindings n node b there
    simp [Statement.render, triggerId, name, one.type, no_break_quotedLabel one.label]
  case bindings =>
    intro b there i
    have one := p.bindings n node b there
    cases b.direction <;>
      simp [Statement.render, bindingNode, bindingId, triggerId, name, one.type,
        no_break_quotedLabel one.label, no_break_digits i]
  case signals =>
    intro s there
    have event : '\n' ∉ ("signal: " ++ s.event).toList := by
      simp [p.events n node s there]
    simp [Statement.render, name, (p.senders n node s there).no_break, no_break_quotedLabel event]
  case continuation => simp [Statement.render, name]

/-- The text, cut where lines end. -/
def textLines (g : Graph) : List (List Char) := piecesBy (· = '\n') (render g).toList

theorem Printable.textLines_eq (p : Printable g) :
    textLines g = header :: (statements g).map Statement.render ++ [[]] := by
  rw [textLines, render, String.toList_ofList]
  refine piecesBy_lines rfl ?_
  have whole : ∀ line ∈ header :: (statements g).map Statement.render, '\n' ∉ line := by
    simp only [List.mem_cons, List.mem_map]
    rintro _ (rfl | ⟨s, here, rfl⟩)
    · decide
    · exact p.no_break here
  intro line here c inside
  simp only [decide_eq_false_iff_not]
  rintro rfl
  exact whole line here inside

/-! ### Order -/

theorem comesBefore_iff {a b : Node} : comesBefore a b = true ↔
    isEntryPoint a = isEntryPoint b ∧ a.name ≤ b.name ∨
      isEntryPoint a = true ∧ isEntryPoint b = false := by
  unfold comesBefore
  cases isEntryPoint a <;> cases isEntryPoint b <;> simp

theorem comesBefore_trans (a b c : Node) (ab : comesBefore a b = true) (bc : comesBefore b c = true) :
    comesBefore a c = true := by
  rw [comesBefore_iff] at *
  obtain ⟨same, le⟩ | ⟨first, last⟩ := ab
  · obtain ⟨same', le'⟩ | ⟨first', last'⟩ := bc
    · exact .inl ⟨same.trans same', String.le_trans le le'⟩
    · exact .inr ⟨same.trans first', last'⟩
  · obtain ⟨same', -⟩ | ⟨first', -⟩ := bc
    · exact .inr ⟨first, same' ▸ last⟩
    · exact absurd (first'.symm.trans last) (by decide)

theorem comesBefore_total (a b : Node) : (comesBefore a b || comesBefore b a) = true := by
  rw [Bool.or_eq_true, comesBefore_iff, comesBefore_iff]
  have total := String.le_total a.name b.name
  cases isEntryPoint a <;> cases isEntryPoint b <;> simp [total]

theorem comesBefore_antisymm (keyed : g.Keyed) {a b : Node} (here : a ∈ g.toList)
    (there : b ∈ g.toList) (ab : comesBefore a b = true) (ba : comesBefore b a = true) : a = b := by
  have names : a.name = b.name := by
    rw [comesBefore_iff] at ab ba
    obtain ⟨same, le⟩ | ⟨first, last⟩ := ab
    · obtain ⟨-, le'⟩ | ⟨first', last'⟩ := ba
      · exact String.le_antisymm le le'
      · exact absurd (first'.symm.trans (same.symm.trans last')) (by decide)
    · obtain ⟨same', -⟩ | ⟨first', -⟩ := ba
      · exact absurd (first.symm.trans (same'.symm.trans last)) (by decide)
      · exact absurd (first'.symm.trans last) (by decide)
  obtain ⟨key, found⟩ := Graph.mem_toList.mp here
  obtain ⟨key', found'⟩ := Graph.mem_toList.mp there
  have keys : key = key' := by rw [← keyed key a found, ← keyed key' b found', names]
  exact Option.some.inj (found.symm.trans (keys ▸ found'))

theorem ascending (keyed : g.Keyed) : g.toList.Pairwise fun a b => a.name < b.name := by
  have sorted := Dictionary.keys_sorted g.nodes
  rwa [show g.nodes.keys = g.toList.map (·.name) from keyed.map_name.symm, List.pairwise_map] at sorted

/-- Entry points first; nothing else is moved. -/
theorem order_eq (keyed : g.Keyed) :
    order g = g.toList.filter isEntryPoint ++ g.toList.filter fun n => !isEntryPoint n := by
  have perm := List.filter_append_perm isEntryPoint g.toList
  have group (p : Node → Bool)
      (alike : ∀ a b, p a = true → p b = true → isEntryPoint a = isEntryPoint b) :
      (g.toList.filter p).Pairwise fun a b => comesBefore a b = true := by
    refine ((ascending keyed).filter p).imp_of_mem ?_
    intro a b here there less
    have same := alike a b (List.mem_filter.mp here).2 (List.mem_filter.mp there).2
    exact comesBefore_iff.mpr (.inl ⟨same, String.not_lt.mp (String.lt_asymm less)⟩)
  refine List.Perm.eq_of_pairwise ?_ (List.pairwise_mergeSort comesBefore_trans comesBefore_total _)
    ?_ ((List.mergeSort_perm _ _).trans perm.symm)
  · intro a b here there
    exact comesBefore_antisymm keyed (List.mem_mergeSort.mp here) (perm.mem_iff.mp there)
  · rw [List.pairwise_append]
    refine ⟨group _ fun a b => ?_, group _ fun a b => ?_, ?_⟩
    · rintro first second
      rw [first, second]
    · simp_all
    · intro a here b there
      exact comesBefore_iff.mpr (.inr ⟨(List.mem_filter.mp here).2,
        by simpa using (List.mem_filter.mp there).2⟩)

/-! ### Counting -/

theorem count_texts {l : List Reading} {r : Reading} (each : ∀ r ∈ l, r.Plain) (plain : r.Plain) :
    (l.map Reading.text).count r.text = l.count r := by
  induction l with
  | nil => rfl
  | cons r' l ih =>
    have same : r'.text = r.text ↔ r' = r :=
      ⟨Reading.eq_of_text_eq (each r' List.mem_cons_self) plain, congrArg Reading.text⟩
    rw [List.map_cons, List.count_cons, List.count_cons,
      ih fun r here => each r (List.mem_cons_of_mem _ here)]
    simp only [beq_iff_eq, same]

theorem Printable.count_textLines (p : Printable g) {r : Reading} (plain : r.Plain) :
    (textLines g).count r.text = ((statements g).map reading).count r := by
  have nonempty : r.text ≠ [] := by
    rw [Reading.text_eq]
    exact List.append_ne_nil_of_left_ne_nil plain.first.nonempty _
  have noHeader : header ≠ r.text := Reading.header_ne plain
  have each : ∀ r ∈ (statements g).map reading, r.Plain := by
    simp only [List.mem_map]
    rintro _ ⟨s, here, rfl⟩
    exact p.plain here
  have texts : (statements g).map Statement.render = ((statements g).map reading).map Reading.text := by
    rw [List.map_map, ← funext text_reading]
    rfl
  rw [p.textLines_eq, texts, List.count_append, List.count_cons_of_ne noHeader, count_texts each plain,
    List.count_singleton]
  simp [nonempty]

/-- The statements of a kind, counted by what they say. -/
theorem count_reading {β : Type} [BEq β] [LawfulBEq β] (select : Statement → Option β)
    (make : β → Reading) (selects : ∀ s b, reading s = make b ↔ select s = some b) (b : β) :
    ((statements g).map reading).count (make b) =
      (g.toList.flatMap fun n => (block n).filterMap select).count b := by
  have perm : (statements g).Perm (g.toList.flatMap block) :=
    (List.mergeSort_perm _ _).flatMap_right block
  rw [(perm.map reading).count_eq, ← List.filterMap_flatMap, List.count_filterMap]
  induction g.toList.flatMap block with
  | nil => rfl
  | cons s l ih =>
    have same : (reading s == make b) = (select s == some b) := by
      rw [Bool.eq_iff_iff, beq_iff_eq, beq_iff_eq, selects]
    rw [List.map_cons, List.count_cons, List.countP_cons, ih, same]

/-- What is selected from a block, statement by statement. -/
theorem select_block {β : Type} (select : Statement → Option β) (n : Node) :
    (block n).filterMap select =
      (select (.function n.name n.kind)).toList ++
        n.callers.filterMap (fun c => select (.call c n.name)) ++
        (if n.callers = [] then n.externalTrigger?.toList else []).filterMap
          (fun b => select (.trigger n.name b.type b.label)) ++
        (n.bindings.zipIdx.filter fun (b, _) => !b.isTrigger).filterMap
          (fun (b, i) => select (.binding n.name b.type i b.label b.direction)) ++
        n.signals.filterMap (fun s => select (.signal s.sender s.event n.name)) ++
        if n.continuesAsNew then (select (.continuation n.name)).toList else [] := by
  have triggers : triggerStatements n =
      (if n.callers = [] then n.externalTrigger?.toList else []).map
        fun b => .trigger n.name b.type b.label := by
    unfold triggerStatements
    simp only [List.isEmpty_iff]
    split
    · cases n.externalTrigger? <;> rfl
    · rfl
  have head (s : Statement) (l : List Statement) :
      (s :: l).filterMap select = (select s).toList ++ l.filterMap select := by
    cases chosen : select s with
    | none => rw [List.filterMap_cons_none chosen, Option.toList_none, List.nil_append]
    | some b => rw [List.filterMap_cons_some chosen]; rfl
  have last : (if n.continuesAsNew then [Statement.continuation n.name] else []).filterMap select =
      if n.continuesAsNew then (select (.continuation n.name)).toList else [] := by
    split
    · rw [head, List.filterMap_nil, List.append_nil]
    · rfl
  rw [block, List.cons_append, List.cons_append, List.cons_append, List.cons_append, head]
  simp only [List.filterMap_append, List.filterMap_map, triggers, last, bindingStatements,
    List.append_assoc]
  rfl

/-! ### What the graph has to tell -/

def functions (g : Graph) : List (List Char × List Char) :=
  g.toList.map fun n => (n.name.toList, functionForm n.name n.kind)

/-- Caller and callee of each call. -/
def calls (g : Graph) : List (List Char × List Char) :=
  g.toList.flatMap fun n => n.callers.map fun c => (c.toList, n.name.toList)

/-- Sender, event and target of each signal, the event as it is spelled in labels. -/
def signals (g : Graph) : List (List Char × List Char × List Char) :=
  g.toList.flatMap fun n => n.signals.map fun s =>
    (s.sender.toList, escaped s.event, n.name.toList)

def continuations (g : Graph) : List (List Char × List Char) :=
  (g.toList.filter (·.continuesAsNew)).map fun n => (n.name.toList, n.name.toList)

/-- What fires the functions that no function calls. -/
def triggers (g : Graph) : List (List Char × List Char × List Char) :=
  g.toList.flatMap fun n => (if n.callers = [] then n.externalTrigger?.toList else []).map fun b =>
    (n.name.toList, triggerDrawing b.type b.label, n.name.toList)

/-- The bindings of one direction that are no triggers, numbered among those of their function. -/
def bindings (g : Graph) (direction : Direction) : List (List Char × List Char × List Char) :=
  g.toList.flatMap fun n =>
    (n.bindings.zipIdx.filter fun (b, _) => !b.isTrigger && b.direction = direction).map
      fun (b, i) => (n.name.toList, bindingDrawing b.type i b.label, n.name.toList)

/-- The text consists of the blocks of all nodes, entry points first, and has one line for each entry
of the graph and no others. -/
structure Conserved (g : Graph) : Prop where
  blocks : textLines g =
    header :: (order g).flatMap (fun n => (block n).map Statement.render) ++ [[]]
  order : order g = g.toList.filter isEntryPoint ++ g.toList.filter fun n => !isEntryPoint n
  ascending : g.toList.Pairwise fun a b => bytes a.name < bytes b.name
  functions : ∀ name form, (Reading.function name form).Plain →
    (textLines g).count (Reading.function name form).text = (functions g).count (name, form)
  calls : ∀ caller callee, IsName caller → IsName callee →
    (textLines g).count (Reading.call caller callee).text = (calls g).count (caller, callee)
  signals : ∀ sender event target, IsName sender → IsName target →
    (textLines g).count (Reading.signal sender event target).text =
      (signals g).count (sender, event, target)
  continuations : ∀ source target, IsName source → IsName target →
    (textLines g).count (Reading.continuation source target).text =
      (continuations g).count (source, target)
  triggers : ∀ owner drawing target, IsName owner → IsName target →
    (textLines g).count (Reading.trigger owner drawing target).text =
      (triggers g).count (owner, drawing, target)
  bindings : ∀ direction owner drawing function, IsName owner → IsName function →
    (textLines g).count (bound owner drawing function direction).text =
      (bindings g direction).count (owner, drawing, function)

/-! ### One kind of lines at a time -/

def function? : Statement → Option (List Char × List Char)
  | .function name kind => some (name.toList, functionForm name kind)
  | _ => none

def call? : Statement → Option (List Char × List Char)
  | .call caller callee => some (caller.toList, callee.toList)
  | _ => none

def signal? : Statement → Option (List Char × List Char × List Char)
  | .signal sender event target => some (sender.toList, escaped event, target.toList)
  | _ => none

def continuation? : Statement → Option (List Char × List Char)
  | .continuation name => some (name.toList, name.toList)
  | _ => none

def trigger? : Statement → Option (List Char × List Char × List Char)
  | .trigger name type label => some (name.toList, triggerDrawing type label, name.toList)
  | _ => none

def binding? (direction : Direction) : Statement → Option (List Char × List Char × List Char)
  | .binding name type index label direction' =>
    if direction' = direction then
      some (name.toList, bindingDrawing type index label, name.toList)
    else none
  | _ => none

theorem count_functions (g : Graph) (name form : List Char) :
    ((statements g).map reading).count (.function name form) = (functions g).count (name, form) := by
  have selects (s : Statement) (b : List Char × List Char) :
      reading s = .function b.1 b.2 ↔ function? s = some b := by
    obtain ⟨name, form⟩ := b
    cases s with
    | binding _ _ _ _ direction => cases direction <;> simp [reading, bound, function?]
    | _ => simp [reading, function?]
  have told : (g.toList.flatMap fun n => (block n).filterMap function?) = functions g := by
    simp [select_block, function?, functions, List.map_eq_flatMap]
  rw [count_reading function? _ selects (name, form), told]

theorem count_calls (g : Graph) (caller callee : List Char) :
    ((statements g).map reading).count (.call caller callee) = (calls g).count (caller, callee) := by
  have selects (s : Statement) (b : List Char × List Char) :
      reading s = .call b.1 b.2 ↔ call? s = some b := by
    obtain ⟨caller, callee⟩ := b
    cases s with
    | binding _ _ _ _ direction => cases direction <;> simp [reading, bound, call?]
    | _ => simp [reading, call?]
  have told : (g.toList.flatMap fun n => (block n).filterMap call?) = calls g := by
    simp [select_block, call?, calls]
  rw [count_reading call? _ selects (caller, callee), told]

theorem count_signals (g : Graph) (sender event target : List Char) :
    ((statements g).map reading).count (.signal sender event target) =
      (signals g).count (sender, event, target) := by
  have selects (s : Statement) (b : List Char × List Char × List Char) :
      reading s = .signal b.1 b.2.1 b.2.2 ↔ signal? s = some b := by
    obtain ⟨sender, event, target⟩ := b
    cases s with
    | binding _ _ _ _ direction => cases direction <;> simp [reading, bound, signal?]
    | _ => simp [reading, signal?]
  have told : (g.toList.flatMap fun n => (block n).filterMap signal?) = signals g := by
    simp [select_block, signal?, signals]
  rw [count_reading signal? _ selects (sender, event, target), told]

theorem count_continuations (g : Graph) (source target : List Char) :
    ((statements g).map reading).count (.continuation source target) =
      (continuations g).count (source, target) := by
  have selects (s : Statement) (b : List Char × List Char) :
      reading s = .continuation b.1 b.2 ↔ continuation? s = some b := by
    obtain ⟨source, target⟩ := b
    cases s with
    | binding _ _ _ _ direction => cases direction <;> simp [reading, bound, continuation?]
    | _ => simp [reading, continuation?]
  have told : (g.toList.flatMap fun n => (block n).filterMap continuation?) = continuations g := by
    have each (n : Node) : (block n).filterMap continuation? =
        ([n].filter (·.continuesAsNew)).map fun n => (n.name.toList, n.name.toList) := by
      rw [select_block]
      cases again : n.continuesAsNew <;> simp [continuation?, again]
    simp only [each, continuations, ← List.map_flatMap, ← List.filter_flatMap, List.flatMap_singleton']
  rw [count_reading continuation? _ selects (source, target), told]

theorem count_triggers (g : Graph) (owner drawing target : List Char) :
    ((statements g).map reading).count (.trigger owner drawing target) =
      (triggers g).count (owner, drawing, target) := by
  have selects (s : Statement) (b : List Char × List Char × List Char) :
      reading s = .trigger b.1 b.2.1 b.2.2 ↔ trigger? s = some b := by
    obtain ⟨owner, drawing, target⟩ := b
    cases s with
    | binding _ _ _ _ direction => cases direction <;> simp [reading, bound, trigger?]
    | _ => simp [reading, trigger?]
  have told : (g.toList.flatMap fun n => (block n).filterMap trigger?) = triggers g := by
    simp [select_block, trigger?, triggers]
  rw [count_reading trigger? _ selects (owner, drawing, target), told]

theorem filterMap_if {α β : Type} (p q : α → Bool) (f : α → β) (l : List α) :
    (l.filter p).filterMap (fun x => if q x then some (f x) else none) =
      (l.filter fun x => p x && q x).map f := by
  rw [List.filterMap_filter, ← List.filterMap_eq_map, List.filterMap_filter]
  congr 1
  funext x
  cases p x <;> cases q x <;> rfl

theorem count_bindings (g : Graph) (direction : Direction) (owner drawing function : List Char) :
    ((statements g).map reading).count (bound owner drawing function direction) =
      (bindings g direction).count (owner, drawing, function) := by
  have selects (s : Statement) (b : List Char × List Char × List Char) :
      reading s = bound b.1 b.2.1 b.2.2 direction ↔ binding? direction s = some b := by
    obtain ⟨owner, drawing, function⟩ := b
    cases s with
    | binding _ _ _ _ direction' =>
      cases direction' <;> cases direction <;>
        simp [reading, bound, binding?, and_comm, and_left_comm]
    | _ => cases direction <;> simp [reading, bound, binding?]
  have told : (g.toList.flatMap fun n => (block n).filterMap (binding? direction)) =
      bindings g direction := by
    unfold bindings
    congr 1
    funext n
    rw [select_block]
    have each := filterMap_if (fun e : Binding × Nat => !e.1.isTrigger)
      (fun e => e.1.direction = direction)
      (fun e => (n.name.toList, bindingDrawing e.1.type e.2 e.1.label, n.name.toList))
      n.bindings.zipIdx
    simpa [binding?] using each
  rw [count_reading (binding? direction) _ selects (owner, drawing, function), told]

theorem Printable.conserved (p : Printable g) : Conserved g where
  blocks := by rw [p.textLines_eq, statements, List.map_flatMap]
  order := order_eq p.keyed
  ascending := (ascending p.keyed).imp Text.bytes_lt
  functions name form plain := by rw [p.count_textLines plain, count_functions]
  calls caller callee isName isName' := by
    have plain : (Reading.call caller callee).Plain := ⟨isName, isName'⟩
    rw [p.count_textLines plain, count_calls]
  signals sender event target isName isName' := by
    have plain : (Reading.signal sender event target).Plain := ⟨isName, isName'⟩
    rw [p.count_textLines plain, count_signals]
  continuations source target isName isName' := by
    have plain : (Reading.continuation source target).Plain := ⟨isName, isName'⟩
    rw [p.count_textLines plain, count_continuations]
  triggers owner drawing target isName isName' := by
    have plain : (Reading.trigger owner drawing target).Plain := ⟨isName, isName'⟩
    rw [p.count_textLines plain, count_triggers]
  bindings direction owner drawing function isName isName' := by
    rw [p.count_textLines (plain_bound isName isName' direction), count_bindings]

/-- Arrows and quotes in labels. -/
def arrowNodes : List Node := [
  { name := "a-1"
    bindings := [{ type := "httpTrigger" }, { type := "x -.-> b", direction := .output },
      Binding.withField { type := "queue" } "queueName" "q\"] ---> b"]
    callers := ["b"]
    signals := [⟨"b", "go\" .-> a-1"⟩, ⟨"b", "go\" .-> a-1"⟩] },
  { name := "b"
    bindings := [{ type := "timerTrigger" }]
    continuesAsNew := true }]

theorem printable_arrows : Printable (Graph.ofList arrowNodes) where
  keyed := Graph.keyed_ofList arrowNodes
  names := by decide +kernel
  callers := by decide +kernel
  senders := by decide +kernel
  events := by decide +kernel
  bindings n here b bound := by
    obtain ⟨name, found⟩ := Graph.mem_toList.mp here
    have listed := Graph.mem_of_ofList found
    simp only [arrowNodes, List.mem_cons, List.not_mem_nil, or_false] at listed
    obtain rfl | rfl := listed
    · simp only [List.mem_cons, List.not_mem_nil, or_false] at bound
      obtain rfl | rfl | rfl := bound
      · exact Binding.oneLine_of_type (by decide)
      · exact Binding.oneLine_of_type (by decide)
      · exact (Binding.oneLine_of_type (by decide)).withField (by decide)
    · obtain rfl := List.mem_singleton.mp bound
      exact Binding.oneLine_of_type (by decide)

theorem conserved_arrows :
    Printable (Graph.ofList arrowNodes) ∧ Conserved (Graph.ofList arrowNodes) :=
  ⟨printable_arrows, printable_arrows.conserved⟩

end OrchestrationGraph.Diagram
