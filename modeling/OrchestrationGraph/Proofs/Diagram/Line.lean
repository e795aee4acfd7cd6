import OrchestrationGraph.Diagram.Printer

/-!
# The parts of a line

A line of a flowchart mentions one node, or two with an arrow between them. Where a node is declared
its mention goes on with the form in which it is drawn. The text of a statement is that of its line
(`render_eq`), and no label in it holds a double quote (`not_mem_label`).
-/

namespace OrchestrationGraph.Diagram

/-- The form in which a node is drawn: a label between double quotes with its borders. What follows
the border is part of the closing. -/
structure Form where
  opening : List Char
  label : List Char
  closing : List Char

/-- A mention of a node, which declares the node if it has a form. -/
structure Mention where
  id : List Char
  form? : Option Form := none

structure Arrow where
  tail : List Char
  label? : Option (List Char) := none
  head : List Char := []

inductive Line where
  | node (m : Mention)
  | edge (source : Mention) (arrow : Arrow) (target : Mention)

/-! ### Text -/

def quoted (label : List Char) : List Char := '"' :: label ++ ['"']

def Form.text (f : Form) : List Char := f.opening ++ quoted f.label ++ f.closing

def Mention.text (m : Mention) : List Char := m.id ++ m.form?.elim [] Form.text

def Arrow.text (a : Arrow) : List Char := a.tail ++ a.label?.elim [] quoted ++ a.head

def Line.text : Line → List Char
  | node m => m.text
  | edge source arrow target => source.text ++ arrow.text ++ target.text

/-! ### What a line holds -/

def Mention.declared (m : Mention) : List (List Char) := if m.form?.isSome then [m.id] else []

def Mention.labels (m : Mention) : List (List Char) := m.form?.toList.map Form.label

namespace Line

def declared : Line → List (List Char)
  | node m => m.declared
  | edge source _ target => source.declared ++ target.declared

/-- The nodes that the arrow of the line joins. -/
def ends : Line → List (List Char)
  | node _ => []
  | edge source _ target => [source.id, target.id]

/-- What stands between double quotes. -/
def labels : Line → List (List Char)
  | node m => m.labels
  | edge source arrow target => source.labels ++ arrow.label?.toList ++ target.labels

end Line

/-! ### Statements -/

/-- The mention of a function that is declared elsewhere. -/
def reference (function : String) : Mention := { id := function.toList }

def bindingMention (function type : String) (index : Nat) (label : String) : Mention where
  id := bindingId function type index
  form? := some ⟨['(', '['], escaped label, "]):::".toList ++ type.toList⟩

def line : Statement → Line
  | .function name kind =>
    .node ⟨name.toList, some ⟨(outline kind).1, escaped name, (outline kind).2⟩⟩
  | .call caller callee => .edge (reference caller) { tail := " ---> ".toList } (reference callee)
  | .trigger name type label =>
    .edge ⟨triggerId name type, some ⟨['>'], escaped label, "]:::".toList ++ type.toList⟩⟩
      { tail := " --> ".toList } (reference name)
  | .binding name type index label .input =>
    .edge (bindingMention name type index label) { tail := " -.-> ".toList } (reference name)
  | .binding name type index label .output =>
    .edge (reference name) { tail := " -.-> ".toList } (bindingMention name type index label)
  | .binding name type index label .both =>
    .edge (reference name) { tail := " -.- ".toList } (bindingMention name type index label)
  | .signal sender event target =>
    .edge (reference sender)
      ⟨" -. ".toList, some (escaped ("signal: " ++ event)), " .-> ".toList⟩ (reference target)
  | .continuation name =>
    .edge (reference name) ⟨" -- ".toList, some "[ContinueAsNew]".toList, " --> ".toList⟩
      (reference name)

def lines (g : Graph) : List Line := (statements g).map line

theorem render_eq (s : Statement) : s.render = (line s).text := by
  cases s with
  | binding name type index label direction =>
    cases direction <;>
      simp [Statement.render, line, Line.text, Mention.text, Arrow.text, Form.text, reference,
        bindingMention, bindingNode, quoted, quotedLabel]
  | _ =>
    simp [Statement.render, line, Line.text, Mention.text, Arrow.text, Form.text, reference, quoted,
      quotedLabel]

theorem render_eq_lines (g : Graph) :
    render g = String.ofList ((header :: (lines g).map Line.text).flatMap fun l => l ++ ['\n']) := by
  rw [render, lines, List.map_map, funext render_eq]
  rfl

/-! ### Labels -/

theorem not_mem_escaped (label : String) : '"' ∉ escaped label := by
  intro here
  obtain ⟨c, -, here⟩ := List.mem_flatMap.mp here
  unfold escapedChar at here
  split at here
  · revert here
    decide
  · rename_i other
    exact other (List.mem_singleton.mp here).symm

theorem exists_escaped {s : Statement} {label : List Char} (here : label ∈ (line s).labels) :
    ∃ text, label = escaped text := by
  cases s with
  | function name kind => exact ⟨name, List.mem_singleton.mp here⟩
  | call caller callee => simp [line, Line.labels, Mention.labels, reference] at here
  | trigger name type text => exact ⟨text, List.mem_singleton.mp here⟩
  | binding name type index text direction =>
    refine ⟨text, ?_⟩
    cases direction <;> exact List.mem_singleton.mp here
  | signal sender event target => exact ⟨"signal: " ++ event, List.mem_singleton.mp here⟩
  | continuation name =>
    refine ⟨"[ContinueAsNew]", (List.mem_singleton.mp here).trans ?_⟩
    decide

theorem not_mem_label {s : Statement} {label : List Char} (here : label ∈ (line s).labels) :
    '"' ∉ label := by
  obtain ⟨text, rfl⟩ := exists_escaped here
  exact not_mem_escaped text

end OrchestrationGraph.Diagram
