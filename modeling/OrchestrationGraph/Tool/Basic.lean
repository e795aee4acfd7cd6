import OrchestrationGraph.Text.Blank

/-!
# External tools

A command to run, and what came of it.
-/

namespace OrchestrationGraph.Tool

structure Command where
  program : String
  arguments : List String := []
  /-- The folder to run in; by default the current one. -/
  folder : Option String := none
  deriving DecidableEq, Repr

namespace Command

def withArguments (c : Command) (l : List String) : Command :=
  { c with arguments := c.arguments ++ l }

def inFolder (c : Command) (folder : String) : Command := { c with folder := some folder }

def display (c : Command) : String := " ".intercalate (c.program :: c.arguments)

end Command

/-- How a command that could be started came to its end. -/
structure Outcome where
  success : Bool
  /-- The exit code, unless a signal ended the command. -/
  code : Option Int
  stdout : String
  stderr : String
  deriving DecidableEq, Repr

/-- The last line with more than white space, without the white space around it. -/
def lastLine? (text : String) : Option String :=
  let lines := (Text.piecesBy (· = '\n') text.toList).map (Text.trimBy Text.isBlank)
  ((lines.filter (!·.isEmpty)).getLast?).map String.ofList

namespace Outcome

/-- Why a command failed, in few words: its last line on the error channel, else its last line on
the other, else its exit code. -/
def failureMessage (o : Outcome) : String :=
  ((lastLine? o.stderr).or (lastLine? o.stdout)).getD <|
    match o.code with
    | some code => "exited with status " ++ toString code
    | none => "terminated by signal"

end Outcome

end OrchestrationGraph.Tool
