import OrchestrationGraph.Json.Value
import OrchestrationGraph.Yaml.Scalar

/-!
# Writing YAML

Block style throughout, but for empty lists and objects. Items of a list stand below its name
without further indentation; a list or object inside a list begins on the line of its dash.
-/

namespace OrchestrationGraph.Yaml

open Json (Value Number)

/-- An exponent above zero has no sign. -/
def exponentStyle : Decimal.ExponentStyle := ⟨false⟩

def renderNumber : Number → List Char
  | .integer n => (Number.integer n).render
  | .double d => exponentStyle.render d

/-- What stands before a value on its line. -/
inductive Place where
  /-- A name and its colon. -/
  | afterName
  /-- A mark of one character. -/
  | afterMark
  deriving DecidableEq

/-- Entries of a list or an object, each indented, but the first one may stand on the line of a
mark. -/
def entries (place : Place) (indent : Nat) : List (List Char) → List Char
  | [] => []
  | first :: rest =>
    (match place with
      | .afterName => '\n' :: blanks indent
      | .afterMark => [' ']) ++
      first ++ rest.flatMap fun entry => blanks indent ++ entry

/-- A name with the mark of its value, and the place where the value begins. -/
def nameText (indent : Nat) (name : String) : List Char × Place :=
  if isSimpleName name.toList then (scalar true (indent + indentStep) name ++ [':'], .afterName)
  else
    (['?', ' '] ++ scalar false (indent + indentStep) name ++ lineEnd name ++ blanks indent ++ [':'],
      .afterMark)

mutual

/-- A value after its mark; `indent` is that of the list or object around it. -/
def render (place : Place) (indent : Nat) : Value → List Char
  | .null => " null\n".toList
  | .bool true => " true\n".toList
  | .bool false => " false\n".toList
  | .number n => ' ' :: renderNumber n ++ ['\n']
  | .text s => ' ' :: scalar false (indent + indentStep) s ++ lineEnd s
  | .list [] => " []\n".toList
  | .object [] => [' ', '\x7b', '\x7d', '\n']
  | .list items =>
    let inner := if place = .afterName then indent else indent + indentStep
    entries place inner (itemEntries inner items)
  | .object members =>
    entries place (indent + indentStep) (memberEntries (indent + indentStep) members)

def itemEntries (indent : Nat) : List Value → List (List Char)
  | [] => []
  | item :: items => ('-' :: render .afterMark indent item) :: itemEntries indent items

def memberEntries (indent : Nat) : List (String × Value) → List (List Char)
  | [] => []
  | (name, v) :: members =>
    let (text, place) := nameText indent name
    (text ++ render place indent v) :: memberEntries indent members

end

def document (members : List (String × Value)) : String :=
  String.ofList (memberEntries 0 members).flatten

end OrchestrationGraph.Yaml
