import OrchestrationGraph.Binding.Basic

/-!
# Binding labels

What a binding is about in a few words: its queue, path, route or schedule, or else its type.
-/

namespace OrchestrationGraph.Binding

/-- The type in lower case and without the ending of triggers. -/
def family (b : Binding) : String :=
  let type := (Text.asciiLower b.type).toList
  String.ofList ((Text.dropTail? triggerEnding type).getD type)

/-- Methods in capitals, and the route with one slash before it. -/
def httpLabel? (b : Binding) : Option String :=
  let methods := ",".intercalate (b.methods.map Text.asciiUpper)
  let route? := (b.field? "route").map fun r => String.ofList ('/' :: r.toList.dropWhile (· = '/'))
  match route? with
  | none => if methods.isEmpty then none else some methods
  | some route => some (if methods.isEmpty then route else methods ++ " " ++ route)

/-- Two properties with a colon between them, or the first alone. -/
def pairLabel? (b : Binding) (first second : String) : Option String :=
  (b.field? first).map fun x => (b.field? second).elim x fun y => x ++ ":" ++ y

def description? (b : Binding) : Option String :=
  match b.family with
  | "http" => b.httpLabel?
  | "blob" => b.field? "path"
  | "cosmosdb" => b.pairLabel? "databaseName" "collectionName"
  | "eventhub" => b.field? "eventHubName"
  | "servicebus" => (b.field? "queueName").or (b.pairLabel? "topicName" "subscriptionName")
  | "queue" | "rabbitmq" => b.field? "queueName"
  | "timer" => b.field? "schedule"
  | "table" => b.field? "tableName"
  | "signalr" | "signalrconnectioninfo" => b.field? "hubName"
  | "eventgrid" => b.field? "topicEndpointUri"
  | _ => none

def label (b : Binding) : String := b.description?.getD b.type

end OrchestrationGraph.Binding
