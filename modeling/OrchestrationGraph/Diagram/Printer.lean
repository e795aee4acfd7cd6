import OrchestrationGraph.Diagram.Basic

/-!
# Flowchart text

One line for each statement, below the line that says that the chart runs from left to right. In
labels the double quote has a spelling of its own, because labels stand between double quotes.
-/

namespace OrchestrationGraph

namespace Diagram

def escapedChar (c : Char) : List Char := if c = '"' then "#quot;".toList else [c]

def escaped (label : String) : List Char := label.toList.flatMap escapedChar

def quotedLabel (label : String) : List Char := '"' :: escaped label ++ ['"']

def outline : Node.Kind → List Char × List Char
  | .orchestrator => (['[', '['], [']', ']'])
  | .activity => (['[', '/'], ['/', ']'])
  | .entity => (['[', '('], [')', ']'])
  | .other => (['\x7b', '\x7b'], ['\x7d', '\x7d'])

def triggerId (function type : String) : List Char := function.toList ++ '.' :: type.toList

def bindingId (function type : String) (index : Nat) : List Char :=
  triggerId function type ++ '.' :: Nat.toDigits 10 index

def bindingNode (function type : String) (index : Nat) (label : String) : List Char :=
  bindingId function type index ++ ['(', '['] ++ quotedLabel label ++ "]):::".toList ++ type.toList

end Diagram

open Diagram

def Statement.render : Statement → List Char
  | function name kind =>
    name.toList ++ (outline kind).1 ++ quotedLabel name ++ (outline kind).2
  | call caller callee => caller.toList ++ " ---> ".toList ++ callee.toList
  | trigger name type label =>
    triggerId name type ++ '>' :: quotedLabel label ++ "]:::".toList ++ type.toList ++
      " --> ".toList ++ name.toList
  | binding name type index label .input =>
    bindingNode name type index label ++ " -.-> ".toList ++ name.toList
  | binding name type index label .output =>
    name.toList ++ " -.-> ".toList ++ bindingNode name type index label
  | binding name type index label .both =>
    name.toList ++ " -.- ".toList ++ bindingNode name type index label
  | signal sender event target =>
    sender.toList ++ " -. ".toList ++ quotedLabel ("signal: " ++ event) ++ " .-> ".toList ++
      target.toList
  | continuation name =>
    name.toList ++ " -- \"[ContinueAsNew]\" --> ".toList ++ name.toList

namespace Diagram

def header : List Char := "graph LR".toList

def render (g : Graph) : String :=
  String.ofList ((header :: (statements g).map Statement.render).flatMap fun line => line ++ ['\n'])

end Diagram

end OrchestrationGraph
