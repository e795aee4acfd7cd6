import OrchestrationGraph.Pattern.Search
import OrchestrationGraph.Pattern.Spelling

/-!
# Uses of the orchestration interface in source code

Patterns for the calls that start, call, signal, continue or await something, in all the spellings
that the supported languages have for them. The verbs are recognised in any letter case, the names
of functions and events only as they are written.
-/

namespace OrchestrationGraph.Usage

open Pattern

/-! ### Parts of a call -/

/-- Verbs in any letter case. -/
def verbs (first : String) (others : List String) : Pattern :=
  choice (anyCase first) (others.map anyCase)

def async : Pattern := optional (anyCase "Async")

/-- A generic argument list such as `<List<int>>`, or nothing. -/
def typeArguments : Pattern :=
  optional (text "<" ++ oneOrMore (wordBlankOr ".[]<>,-") ++ text ">")

def openingParen : Pattern := blanks ++ text "(" ++ blanks

/-- The start of a member access such as `Names.` -/
def memberAccess : Pattern := oneOrMore (wordBlankOr ".") ++ text "." ++ blanks

def nameOf : Pattern := anyCase "nameof" ++ openingParen

/-- What stands before the name of a target: a quote, `nameof(` with a qualifier, or a member
access. -/
def nameOpening : Pattern :=
  choice (oneOf isQuote) [nameOf ++ many isNamePart, memberAccess]

/-- What stands before a declared or awaited name: a quote, `nameof(`, or a member access. -/
def plainOpening : Pattern := choice nameOf [oneOf isQuote, memberAccess]

/-- What ends the name of a target: a quote, a parenthesis or a comma. -/
def nameClosing : Pattern := blanks ++ oneOf fun c => isQuote c || c = ')' || c = ','

/-- A call of one of the verbs that names `target` as its first argument. -/
def callNaming (verb : Pattern) (target : String) : Pattern :=
  verb ++ async ++ typeArguments ++ openingParen ++ nameOpening ++ text target ++ nameClosing

/-! ### Calls -/

def startsOrchestration (name : String) : Pattern :=
  callNaming
    (verbs "StartNew"
      ["start_new", "scheduleNewOrchestrationInstance", "schedule_new_orchestration"])
    name

def callsOrchestration (name : String) : Pattern :=
  callNaming
    (verbs "CallSubOrchestrator"
      ["CallSubOrchestratorWithRetry", "call_sub_orchestrator",
        "call_sub_orchestrator_with_retry"])
    name

def callsActivity (name : String) : Pattern :=
  verbs "CallActivity" ["call_activity"] ++ many (wordBlankOr ",.<>[]()?-") ++ text "(" ++
    many (wordBlankOr ".-") ++ optional (oneOf isQuote) ++ text name ++ nameClosing

def raisesEvent (name : String) : Pattern :=
  verbs "RaiseEvent" ["raise_event"] ++ async ++ many (fun _ => true) ++ text name

/-- A typed client or an identifier of the entity `name`: the name before a quote or `>`. -/
def refersToEntity (name : String) : Pattern :=
  text name ++ oneOf fun c => c = '"' || c = '\x27' || c = '>'

def continuesAsNew : Pattern :=
  verbs "ContinueAsNew" ["continue_as_new"] ++ blanks ++ text "("

def declaresFunction (name : String) : Pattern :=
  edge Text.isWord ++ choice (text "FunctionName") [text "Function"] ++
    optional (text "Attribute") ++ openingParen ++ plainOpening ++ text name ++ blanks ++
    oneOf fun c => isQuote c || c = ')'

/-! ### Awaited events -/

/-- The wait for an external event, whose name is the group `event`. -/
def awaitsEvent : Pattern :=
  verbs "WaitForExternalEvent" ["wait_for_external_event"] ++ async ++ typeArguments ++
    openingParen ++ optional plainOpening ++
    group "event" (oneOrMore (wordBlankOr ".-")) ++ nameClosing

/-- The name of the awaited event, if there is more to it than white space. -/
def eventName? (code : List Char) (m : Match) : Option String :=
  let name := Text.trimBy Text.isBlank ((m.group? "event" code).getD [])
  if name.isEmpty then none else some (String.ofList name)

/-- The names of the events that `code` waits for, in order of first appearance. -/
def awaitedEvents (code : List Char) : List String :=
  ((awaitsEvent.findAll code).filterMap (eventName? code)).eraseDups

end OrchestrationGraph.Usage
