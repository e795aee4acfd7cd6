import OrchestrationGraph.Json.Printer
import OrchestrationGraph.Log.Filter

/-!
# Log records as lines of text

How a record looks to a reader at a terminal, the time of day aside, which stands in front. Values
are written as they are, so one with line ends makes several lines.
-/

namespace OrchestrationGraph.Log

open Json (Value)

/-- How a part of a line stands out, if lines are styled at all. -/
inductive Style where
  | bold
  | dimmed
  | italic
  | coloured (l : Level)

namespace Style

def code : Style → String
  | bold => "1"
  | dimmed => "2"
  | italic => "3"
  | coloured .trace => "35"
  | coloured .debug => "34"
  | coloured .info => "32"
  | coloured .warn => "33"
  | coloured .error => "31"

def paint (s : Style) (styled : Bool) (text : String) : String :=
  if styled then "\x1b[" ++ s.code ++ "m" ++ text ++ "\x1b[0m" else text

end Style

/-- Levels of four letters are moved to the right. -/
def Level.column (l : Level) : String := if l.title.length < 5 then " " ++ l.title else l.title

def valueText : Value → String
  | .text s => s
  | v => v.compact

def fieldText (styled : Bool) (name value : String) : String :=
  Style.italic.paint styled name ++ Style.dimmed.paint styled "=" ++ value

/-- The span with its fields, as it stands before what is made within. -/
def Span.line (s : Span) (styled : Bool) : String :=
  Style.bold.paint styled s.name ++ Style.bold.paint styled "\x7b" ++
    " ".intercalate (s.fields.map fun f => fieldText styled f.1 f.2) ++
    Style.bold.paint styled "\x7d" ++ Style.dimmed.paint styled ":" ++ " "

/-- The record after the time of day, with the span that it names. -/
def Record.line (r : Record) (span? : Option Span) (styled : Bool) : String :=
  (Style.coloured r.level).paint styled r.level.column ++ " " ++
    (span?.elim "" fun s => s.line styled) ++
    Style.dimmed.paint styled r.target ++ Style.dimmed.paint styled ":" ++ " " ++
    " ".intercalate (r.message :: r.fields.map fun f => fieldText styled f.1 (valueText f.2))

end OrchestrationGraph.Log
