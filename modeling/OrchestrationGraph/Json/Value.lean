import OrchestrationGraph.Decimal.Shortest

/-!
# JSON values

Integers are kept exactly and every other number as a double. The members of an object stand in the
order in which they are written; a value that was read has them in ascending order of names.
-/

namespace OrchestrationGraph.Json

inductive Number where
  | integer (n : Int)
  | double (d : Decimal.Double)
  deriving DecidableEq, Repr, Inhabited

namespace Number

/-- Integers outside the bounds read as doubles. -/
def leastInteger : Int := -0x8000000000000000

def greatestInteger : Int := 0xFFFFFFFFFFFFFFFF

/-- An exponent above zero has a plus sign. -/
def exponentStyle : Decimal.ExponentStyle := ⟨true⟩

def render : Number → List Char
  | integer (.ofNat n) => Nat.toDigits 10 n
  | integer (.negSucc n) => '-' :: Nat.toDigits 10 (n + 1)
  | double d => exponentStyle.render d

end Number

inductive Value where
  | null
  | bool (b : Bool)
  | number (n : Number)
  | text (s : String)
  | list (items : List Value)
  | object (members : List (String × Value))
  deriving Repr, Inhabited

namespace Value

def text? : Value → Option String
  | text s => some s
  | _ => none

def items? : Value → Option (List Value)
  | list items => some items
  | _ => none

def members? : Value → Option (List (String × Value))
  | object members => some members
  | _ => none

def member? (v : Value) (name : String) : Option Value :=
  v.members?.bind fun members => (members.find? fun e => e.1 = name).map (·.2)

def ofNat (n : Nat) : Value := number (.integer n)

def ofTexts (l : List String) : Value := list (l.map text)

end Value

end OrchestrationGraph.Json
