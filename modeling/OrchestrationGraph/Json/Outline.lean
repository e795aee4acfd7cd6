import OrchestrationGraph.Json.Token.Scan

/-!
# The shape of a JSON text

An outline is what a text says, as far as it says something: containers may end wrongly, and
numbers and texts may have no value. Which of these matter is up to the reader, who goes through the
outline in the order of the text.
-/

namespace OrchestrationGraph.Json

/-- How a list or an object ends. -/
inductive Ending where
  | closed
  /-- The items were known before anything was read from them. -/
  | known
  /-- A comma and the closing bracket. -/
  | commaClosed
  /-- A comma and the end of the text. -/
  | commaEnd
  /-- The end of the text in place of a comma or the closing bracket. -/
  | endOfText
  /-- Something else in place of a comma or the closing bracket. -/
  | stray
  /-- Something else in place of a name. -/
  | noName
  | brokenName (fault skipping : Fault)
  deriving DecidableEq

inductive Outline where
  | null
  | bool (b : Bool)
  | number (n : Except Fault Number)
  | text (s : Except Fault String)
  /-- No value, and the end of what could be read. -/
  | broken (fault skipping : Fault)
  | list (items : List Outline) (ending : Ending)
  | object (members : List (Except Fault String × Outline)) (ending : Ending)

instance : Inhabited Outline := ⟨.null⟩

namespace Ending

/-- What a reader meets who goes through all items of a list. -/
def listFault? : Ending → Option Fault
  | closed | known => none
  | commaClosed => some .trailingComma
  | commaEnd => some .endInValue
  | endOfText => some .endInList
  | stray | noName | brokenName .. => some .expectedListEnd

def objectFault? : Ending → Option Fault
  | closed | known => none
  | commaClosed => some .trailingComma
  | commaEnd => some .endInValue
  | endOfText => some .endInObject
  | stray => some .expectedObjectEnd
  | noName => some .keyNotText
  | brokenName fault _ => some fault

/-- What a reader meets who skips a list. -/
def skippedListFault? : Ending → Option Fault
  | commaClosed => some .expectedValue
  | ending => ending.listFault?

def skippedObjectFault? : Ending → Option Fault
  | commaClosed => some .keyNotText
  | commaEnd => some .endInObject
  | brokenName _ skipping => some skipping
  | ending => ending.objectFault?

end Ending

/-! ### Reading -/

mutual

/-- The outline of the value that the tokens begin with, and the tokens after it. -/
def readValue : (steps : Nat) → List Token → Outline × List Token
  | 0, _ | _, [] => (.broken .endInValue .endInValue, [])
  | _ + 1, .null :: rest => (.null, rest)
  | _ + 1, .bool b :: rest => (.bool b, rest)
  | _ + 1, .number n :: rest => (.number n, rest)
  | _ + 1, .text s :: rest => (.text s, rest)
  | _ + 1, .broken fault skipping :: _ | _ + 1, .brokenText fault skipping :: _ =>
    (.broken fault skipping, [])
  | _ + 1, [.openList] => (.list [] .endOfText, [])
  | _ + 1, .openList :: .closeList :: rest => (.list [] .closed, rest)
  | steps + 1, .openList :: rest =>
    let (items, ending, after) := readItems steps rest
    (.list items ending, after)
  | _ + 1, [.openObject] => (.object [] .endOfText, [])
  | _ + 1, .openObject :: .closeObject :: rest => (.object [] .closed, rest)
  | steps + 1, .openObject :: rest =>
    let (members, ending, after) := readMembers steps rest
    (.object members ending, after)
  | _ + 1, .comma :: _ | _ + 1, .colon :: _ | _ + 1, .closeList :: _ | _ + 1, .closeObject :: _ =>
    (.broken .expectedValue .expectedValue, [])

/-- At least one item of a list, and what follows the list. -/
def readItems : (steps : Nat) → List Token → List Outline × Ending × List Token
  | 0, _ => ([], .endOfText, [])
  | steps + 1, l =>
    let (item, rest) := readValue steps l
    match rest with
    | [] => ([item], .endOfText, [])
    | .closeList :: rest => ([item], .closed, rest)
    | [.comma] => ([item], .commaEnd, [])
    | .comma :: .closeList :: _ => ([item], .commaClosed, [])
    | .comma :: rest =>
      let (items, ending, after) := readItems steps rest
      (item :: items, ending, after)
    | _ => ([item], .stray, [])

def readMembers :
    (steps : Nat) → List Token → List (Except Fault String × Outline) × Ending × List Token
  | 0, _ => ([], .endOfText, [])
  | steps + 1, .text name :: .colon :: l =>
    let (value, rest) := readValue steps l
    match rest with
    | [] => ([(name, value)], .endOfText, [])
    | .closeObject :: rest => ([(name, value)], .closed, rest)
    | [.comma] => ([(name, value)], .commaEnd, [])
    | .comma :: .closeObject :: _ => ([(name, value)], .commaClosed, [])
    | .comma :: rest =>
      let (members, ending, after) := readMembers steps rest
      ((name, value) :: members, ending, after)
    | _ => ([(name, value)], .stray, [])
  | _ + 1, [.text name] => ([(name, .broken .endInObject .endInObject)], .endOfText, [])
  | _ + 1, .text name :: _ => ([(name, .broken .expectedColon .expectedColon)], .endOfText, [])
  | _ + 1, .brokenText fault skipping :: _ => ([], .brokenName fault skipping, [])
  | _ + 1, _ => ([], .noName, [])

end

/-- Each step but those between a value and its items passes a token. -/
def Outline.ofTokens (l : List Token) : Outline × List Token := readValue (2 * l.length + 1) l

/-! ### Values -/

mutual

def Outline.ofValue : Value → Outline
  | .null => .null
  | .bool b => .bool b
  | .number n => .number (.ok n)
  | .text s => .text (.ok s)
  | .list items => .list (outlines items) .known
  | .object members => .object (namedOutlines members) .known

def outlines : List Value → List Outline
  | [] => []
  | v :: values => .ofValue v :: outlines values

def namedOutlines : List (String × Value) → List (Except Fault String × Outline)
  | [] => []
  | (name, v) :: members => (.ok name, .ofValue v) :: namedOutlines members

end

/-! ### Skipping -/

mutual

/-- What a reader meets first who skips the value. -/
def Outline.skippingFault? : Outline → Option Fault
  | .null | .bool _ | .number _ | .text _ => none
  | .broken _ skipping => some skipping
  | .list items ending => (itemsFault? items).or ending.skippedListFault?
  | .object members ending => (membersFault? members).or ending.skippedObjectFault?

def itemsFault? : List Outline → Option Fault
  | [] => none
  | item :: items => item.skippingFault?.or (itemsFault? items)

def membersFault? : List (Except Fault String × Outline) → Option Fault
  | [] => none
  | (_, value) :: members => value.skippingFault?.or (membersFault? members)

end

end OrchestrationGraph.Json
