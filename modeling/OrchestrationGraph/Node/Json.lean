import OrchestrationGraph.Binding.Json
import OrchestrationGraph.Node.Basic

/-!
# Nodes in JSON

The parts of a node's place stand in the object only if they are known.
-/

namespace OrchestrationGraph

open Json (Field Reader Shape Value)

namespace Signal

def toJson (s : Signal) : Value := .object [("name", .text s.sender), ("signalName", .text s.event)]

structure Partial where
  sender : Option String := none
  event : Option String := none

def Partial.finish (s : Partial) : Except Json.Fault Signal := do
  let some sender := s.sender | throw (.missingField "name")
  let some event := s.event | throw (.missingField "signalName")
  return { sender, event }

def shape : Shape Partial Signal where
  title := "SignalRef"
  fields := [
    { name := "name", required := true, isSet := fun s => s.sender.isSome,
      read := fun room s v => do return { s with sender := some (← Reader.text room v) } },
    { name := "signalName", required := true, isSet := fun s => s.event.isSome,
      read := fun room s v => do return { s with event := some (← Reader.text room v) } }]
  start := {}
  finish := Partial.finish

end Signal

namespace Node

/-- A member that is left out where there is no value. -/
def optionalMember (name : String) (v? : Option Value) : List (String × Value) :=
  v?.elim [] fun v => [(name, v)]

def toJson (n : Node) : Value :=
  .object ([
    ("name", .text n.name),
    ("bindings", .list (n.bindings.map Binding.toJson)),
    ("isCalledBy", .ofTexts n.callers),
    ("isSignalledBy", .list (n.signals.map Signal.toJson)),
    ("isCalledByItself", .bool n.continuesAsNew)] ++
    optionalMember "filePath" (n.file.map .text) ++
    optionalMember "pos" (n.position.map .ofNat) ++
    optionalMember "lineNr" (n.line.map .ofNat))

structure Partial where
  name : Option String := none
  bindings : Option (List Binding) := none
  callers : Option (List String) := none
  signals : Option (List Signal) := none
  continuesAsNew : Option Bool := none
  file : Option (Option String) := none
  position : Option (Option Nat) := none
  line : Option (Option Nat) := none

def Partial.finish (n : Partial) : Except Json.Fault Node := do
  let some name := n.name | throw (.missingField "name")
  let some bindings := n.bindings | throw (.missingField "bindings")
  let some callers := n.callers | throw (.missingField "isCalledBy")
  let some signals := n.signals | throw (.missingField "isSignalledBy")
  let some continuesAsNew := n.continuesAsNew | throw (.missingField "isCalledByItself")
  return {
    name, bindings, callers, signals, continuesAsNew
    file := n.file.join
    position := n.position.join
    line := n.line.join }

def shape : Shape Partial Node where
  title := "FunctionRecord"
  fields := [
    { name := "name", required := true, isSet := fun n => n.name.isSome,
      read := fun room n v => do return { n with name := some (← Reader.text room v) } },
    { name := "bindings", required := true, isSet := fun n => n.bindings.isSome,
      read := fun room n v => do
        return { n with bindings := some (← Reader.list Binding.reader room v) } },
    { name := "isCalledBy", required := true, isSet := fun n => n.callers.isSome,
      read := fun room n v => do
        return { n with callers := some (← Reader.list Reader.text room v) } },
    { name := "isSignalledBy", required := true, isSet := fun n => n.signals.isSome,
      read := fun room n v => do
        return { n with signals := some (← Reader.list Signal.shape.reader room v) } },
    { name := "isCalledByItself", required := true, isSet := fun n => n.continuesAsNew.isSome,
      read := fun room n v => do return { n with continuesAsNew := some (← Reader.bool room v) } },
    { name := "filePath", required := false, isSet := fun n => n.file.isSome,
      read := fun room n v => do
        return { n with file := some (← Reader.optional (Reader.textAs "path string") room v) } },
    { name := "pos", required := false, isSet := fun n => n.position.isSome,
      read := fun room n v => do
        return { n with position := some (← Reader.optional Reader.count room v) } },
    { name := "lineNr", required := false, isSet := fun n => n.line.isSome,
      read := fun room n v => do
        return { n with line := some (← Reader.optional Reader.count room v) } }]
  start := {}
  finish := Partial.finish

def reader : Reader Node := shape.reader

end Node

end OrchestrationGraph
