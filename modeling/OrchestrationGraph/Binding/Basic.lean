import OrchestrationGraph.Dictionary
import OrchestrationGraph.Json.Value
import OrchestrationGraph.Text.Ascii

/-!
# Bindings

What a function is bound to: a queue, a timer, an HTTP route. A binding has a type, a direction in
which data flows, and properties that depend on the type. Types compare without letter case.
-/

namespace OrchestrationGraph

inductive Direction where
  | input
  | output
  | both
  deriving DecidableEq, Repr, Inhabited

namespace Direction

def name : Direction → String
  | input => "in"
  | output => "out"
  | both => "inout"

/-- Letter case is ignored; any other word means input. -/
def ofWord (word : String) : Direction :=
  let word := Text.asciiLower word
  if word = output.name then output else if word = both.name then both else input

end Direction

structure Binding where
  type : String
  direction : Direction := .input
  properties : Dictionary Json.Value := ∅

namespace Binding

def withField (b : Binding) (name value : String) : Binding :=
  { b with properties := b.properties.insert name (.text value) }

/-- The property of that name, if it is a text. -/
def field? (b : Binding) (name : String) : Option String :=
  (b.properties.get? name).bind Json.Value.text?

/-- The texts in the list `methods`; none if there is no such list. -/
def methods (b : Binding) : List String :=
  match (b.properties.get? "methods").bind Json.Value.items? with
  | some items => items.filterMap Json.Value.text?
  | none => []

def isType (b : Binding) (type : String) : Bool := Text.sameIgnoringCase b.type type

/-! ### Triggers -/

def orchestrationTrigger : String := "orchestrationTrigger"

def activityTrigger : String := "activityTrigger"

def entityTrigger : String := "entityTrigger"

/-- The ending that all types of triggers share, in lower case. -/
def triggerEnding : List Char := "trigger".toList

def isTrigger (b : Binding) : Bool := triggerEnding.isSuffixOf (Text.asciiLower b.type).toList

/-- Fired by the durable framework itself. -/
def isDurable (b : Binding) : Bool :=
  b.isType orchestrationTrigger || b.isType activityTrigger || b.isType entityTrigger

/-- Fired from outside the durable framework. -/
def isExternal (b : Binding) : Bool := b.isTrigger && !b.isDurable

end Binding

end OrchestrationGraph
