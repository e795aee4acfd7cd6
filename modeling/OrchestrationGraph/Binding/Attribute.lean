import OrchestrationGraph.Binding.Basic
import OrchestrationGraph.Pattern.Search
import OrchestrationGraph.Pattern.Spelling
import OrchestrationGraph.Source.Balanced

/-!
# Bindings declared by attributes

Source code declares some bindings by attributes of parameters and return values, such as
`[Blob("out/{name}")]` or `[return: Queue("orders")]`. A known attribute gives a binding, also where
its arguments cannot be read; unknown attributes give none.
-/

namespace OrchestrationGraph

open Pattern

inductive Arguments where
  | unread
  /-- The first quoted text is a property. -/
  | quoted (field : String)
  /-- The first two quoted texts are properties. -/
  | twoQuoted (first second : String)
  /-- The first argument, whatever its spelling, is a property; its name may depend on whether the
  entity is said to be a topic. -/
  | leading (field ofTopic : String)

structure Attribute where
  name : String
  type : String
  /-- The direction where a parameter has the attribute. -/
  direction : Direction
  arguments : Arguments

namespace Attribute

def known : List Attribute := [
  ⟨"Blob", "blob", .both, .quoted "path"⟩,
  ⟨"Table", "table", .both, .leading "tableName" "tableName"⟩,
  ⟨"CosmosDB", "cosmosDB", .both, .twoQuoted "databaseName" "collectionName"⟩,
  ⟨"SignalRConnectionInfo", "signalRConnectionInfo", .input, .quoted "hubName"⟩,
  ⟨"EventGrid", "eventGrid", .output, .twoQuoted "topicEndpointUri" "topicKeySetting"⟩,
  ⟨"EventHub", "eventHub", .output, .quoted "eventHubName"⟩,
  ⟨"Queue", "queue", .output, .leading "queueName" "queueName"⟩,
  ⟨"ServiceBus", "serviceBus", .output, .leading "queueName" "topicName"⟩,
  ⟨"SignalR", "signalR", .output, .quoted "hubName"⟩,
  ⟨"RabbitMQ", "rabbitMQ", .output, .quoted "queueName"⟩,
  ⟨"SendGrid", "sendGrid", .output, .unread⟩,
  ⟨"TwilioSms", "twilioSms", .output, .unread⟩]

def named? (name : String) : Option Attribute := known.find? fun a => a.name = name

end Attribute

namespace Arguments

/-- A text in double quotes, under the name of a group. -/
def quotedText (name : String) : Pattern :=
  text "\"" ++ group name (oneOrMore (· ≠ '"')) ++ text "\""

def twoQuotedTexts : Pattern :=
  quotedText "first" ++ oneOrFew (fun _ => true) ++ quotedText "second"

/-- The first run of characters that a name may have, with the quote or the `nameof(` that stands
right before it, if one does. -/
def leadingName : Pattern :=
  optional (choice (text "\"") [anyCase "nameof" ++ blanks ++ text "("]) ++
    group "first" (oneOrMore isNamePart)

def topicEntity : Pattern :=
  text "EntityType" ++ blanks ++ text "." ++ blanks ++ text "Topic" ++ edge Text.isWord

def readGroups (p : Pattern) (names : List String) (args : List Char) : List String :=
  match p.find? args with
  | none => []
  | some m => names.map fun name => String.ofList ((m.group? name args).getD [])

def fields (args : List Char) : Arguments → List (String × String)
  | unread => []
  | quoted field => [field].zip (readGroups (quotedText "first") ["first"] args)
  | twoQuoted first second =>
    [first, second].zip (readGroups twoQuotedTexts ["first", "second"] args)
  | leading field ofTopic =>
    [if topicEntity.occursIn args then ofTopic else field].zip
      (readGroups leadingName ["first"] args)

end Arguments

namespace Binding

/-- The start of an attribute up to the parenthesis of its arguments. -/
def attributeStart : Pattern :=
  text "[" ++ optional (text "<") ++ blanks ++
    optional (group "return" (text "return" ++ blanks ++ text ":")) ++ blanks ++
    group "name" (oneOrFew Text.isWord) ++ optional (text "Attribute") ++ blanks ++ text "("

def parentheses : Source.Brackets := ⟨'(', ')', []⟩

/-- The binding of an attribute with the argument list `args?`, if that is closed. -/
def ofAttribute (a : Attribute) (ofReturnValue : Bool) (args? : Option (List Char)) : Binding :=
  let fields := args?.elim [] fun args => a.arguments.fields args
  fields.foldl (fun (b : Binding) f => b.withField f.1 f.2)
    { type := a.type, direction := if ofReturnValue then .output else a.direction }

def ofMatch? (code : List Char) (m : Match) : Option Binding := do
  let name ← m.group? "name" code
  let a ← Attribute.named? (String.ofList name)
  return ofAttribute a (m.group? "return" code).isSome
    (parentheses.span? (code.drop (m.stop - 1)))

/-- The bindings that attributes declare, in the order of the code. -/
def declaredIn (code : List Char) : List Binding :=
  (attributeStart.findAll code).filterMap (ofMatch? code)

end Binding

end OrchestrationGraph
