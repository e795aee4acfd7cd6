import OrchestrationGraph.Binding.Basic
import OrchestrationGraph.Json.Reader

/-!
# Bindings in JSON

A binding is one object: its type, its direction and, beside these, its properties.
-/

namespace OrchestrationGraph

open Json (Fault Outline Reader Value)

/-- Letter case is ignored; null and unknown words mean input. -/
def Direction.reader : Reader Direction := fun room v => do
  let word? ← Reader.optional Reader.text room v
  return word?.elim .input ofWord

namespace Binding

/-- The type and the direction come first. -/
def toJson (b : Binding) : Value :=
  .object (("type", .text b.type) :: ("direction", .text b.direction.name) :: b.properties.entries)

/-- A binding of which some members have been read. -/
structure Partial where
  type : Option String := none
  direction : Option Direction := none
  properties : Dictionary Value := ∅

namespace Partial

/-- The type and the direction may be given once; of any other name the last value stays. -/
def readMember (room : Nat) (b : Partial) (name : String) (v : Outline) : Except Fault Partial := do
  if name = "type" then
    if b.type.isSome then throw (.duplicateField name)
    return { b with type := some (← Reader.text room v) }
  else if name = "direction" then
    if b.direction.isSome then throw (.duplicateField name)
    return { b with direction := some (← Direction.reader room v) }
  else
    return { b with properties := b.properties.insert name (← Reader.value room v) }

def finish (b : Partial) : Except Fault Binding :=
  match b.type with
  | none => .error (.missingField "type")
  | some type =>
    .ok { type, direction := b.direction.getD .input, properties := b.properties }

end Partial

def reader : Reader Binding := fun room v => do
  let b ← Reader.foldMembers "struct BindingDescriptor" Partial.readMember {} room v
  b.finish

end Binding

end OrchestrationGraph
