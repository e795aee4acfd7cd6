import OrchestrationGraph.Json.Value
import OrchestrationGraph.Text.Quoted

/-!
# What can be wrong with a JSON text

Either the text is no JSON, or it ends too early, or it says something else than was wanted.
-/

namespace OrchestrationGraph.Json

/-- A value that was met in place of another. -/
inductive Found where
  | null
  | bool (b : Bool)
  | number (n : Number)
  | text (s : String)
  | list
  | object
  deriving DecidableEq, Repr

inductive Fault where
  | endInValue
  | endInList
  | endInObject
  | endInText
  | expectedValue
  | expectedWord
  | expectedColon
  | expectedListEnd
  | expectedObjectEnd
  | keyNotText
  | trailingComma
  | trailingCharacters
  | invalidNumber
  | numberOutOfRange
  | invalidEscape
  | loneSurrogate
  | unfinishedSurrogate
  | controlCharacter
  | tooDeep
  | missingField (name : String)
  | duplicateField (name : String)
  | wrongType (found : Found) (wanted : String)
  | wrongValue (found : Found) (wanted : String)
  | wrongLength (length : Nat) (wanted : String)
  deriving DecidableEq, Repr

inductive Fault.Category where
  | early
  | syntactic
  | data
  deriving DecidableEq, Repr

namespace Fault

def ticked (s : String) : String := "\x60" ++ s ++ "\x60"

def Category.name : Category → String
  | early => "eof"
  | syntactic => "syntax"
  | data => "data"

def category : Fault → Category
  | endInValue | endInList | endInObject | endInText => .early
  | missingField _ | duplicateField _ | wrongType .. | wrongValue .. | wrongLength .. => .data
  | _ => .syntactic

end Fault

def Found.describe : Found → String
  | null => "null"
  | bool b => "boolean " ++ Fault.ticked (if b then "true" else "false")
  | number (.integer n) => "integer " ++ Fault.ticked (String.ofList (Number.integer n).render)
  | number (.double d) =>
    "floating point " ++ Fault.ticked (String.ofList (Number.double d).render)
  | text s => "string " ++ Text.quoted s
  | list => "sequence"
  | object => "map"

def Fault.message : Fault → String
  | endInValue => "EOF while parsing a value"
  | endInList => "EOF while parsing a list"
  | endInObject => "EOF while parsing an object"
  | endInText => "EOF while parsing a string"
  | expectedValue => "expected value"
  | expectedWord => "expected ident"
  | expectedColon => "expected " ++ ticked ":"
  | expectedListEnd => "expected " ++ ticked "," ++ " or " ++ ticked "]"
  | expectedObjectEnd => "expected " ++ ticked "," ++ " or " ++ ticked "\x7d"
  | keyNotText => "key must be a string"
  | trailingComma => "trailing comma"
  | trailingCharacters => "trailing characters"
  | invalidNumber => "invalid number"
  | numberOutOfRange => "number out of range"
  | invalidEscape => "invalid escape"
  | loneSurrogate => "lone leading surrogate in hex escape"
  | unfinishedSurrogate => "unexpected end of hex escape"
  | controlCharacter => "control character (\\u0000-\\u001F) found while parsing a string"
  | tooDeep => "recursion limit exceeded"
  | missingField name => "missing field " ++ ticked name
  | duplicateField name => "duplicate field " ++ ticked name
  | wrongType found wanted => "invalid type: " ++ found.describe ++ ", expected " ++ wanted
  | wrongValue found wanted => "invalid value: " ++ found.describe ++ ", expected " ++ wanted
  | wrongLength n wanted =>
    "invalid length " ++ String.ofList (Nat.toDigits 10 n) ++ ", expected " ++ wanted

end OrchestrationGraph.Json
