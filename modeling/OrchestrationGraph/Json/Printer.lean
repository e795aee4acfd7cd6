import OrchestrationGraph.Json.Value

/-!
# Writing JSON

On one line without blanks, or with each item and member on a line of its own.
-/

namespace OrchestrationGraph.Json

/-! ### Text -/

def hexByte (n : Nat) : List Char := [Nat.digitChar (n / 16), Nat.digitChar (n % 16)]

/-- Only the quote, the backslash and the characters below the blank are escaped. -/
def escapedChar (c : Char) : List Char :=
  if c = '"' then ['\\', '"']
  else if c = '\\' then ['\\', '\\']
  else if c = '\x08' then ['\\', 'b']
  else if c = '\t' then ['\\', 't']
  else if c = '\n' then ['\\', 'n']
  else if c = '\x0c' then ['\\', 'f']
  else if c = '\r' then ['\\', 'r']
  else if c.toNat < 0x20 then ['\\', 'u', '0', '0'] ++ hexByte c.toNat
  else [c]

def renderText (s : String) : List Char := '"' :: s.toList.flatMap escapedChar ++ ['"']

/-! ### Layout -/

inductive Layout where
  | compact
  /-- Lines indented by two blanks for each level. -/
  | indented (level : Nat)

namespace Layout

def newLine : Layout → List Char
  | compact => []
  | indented level => '\n' :: List.replicate (2 * level) ' '

def deeper : Layout → Layout
  | compact => compact
  | indented level => indented (level + 1)

def colon : Layout → List Char
  | compact => [':']
  | indented _ => [':', ' ']

end Layout

/-! ### Values -/

mutual

def Value.render (layout : Layout) : Value → List Char
  | .null => ['n', 'u', 'l', 'l']
  | .bool true => ['t', 'r', 'u', 'e']
  | .bool false => ['f', 'a', 'l', 's', 'e']
  | .number n => n.render
  | .text s => renderText s
  | .list [] => ['[', ']']
  | .list (item :: items) =>
    '[' :: layout.deeper.newLine ++ item.render layout.deeper ++ renderItems layout.deeper items ++
      layout.newLine ++ [']']
  | .object [] => ['\x7b', '\x7d']
  | .object ((name, v) :: members) =>
    '\x7b' :: layout.deeper.newLine ++ renderText name ++ layout.colon ++ v.render layout.deeper ++
      renderMembers layout.deeper members ++ layout.newLine ++ ['\x7d']

/-- Further items, each after a comma. -/
def renderItems (layout : Layout) : List Value → List Char
  | [] => []
  | item :: items => ',' :: layout.newLine ++ item.render layout ++ renderItems layout items

def renderMembers (layout : Layout) : List (String × Value) → List Char
  | [] => []
  | (name, v) :: members =>
    ',' :: layout.newLine ++ renderText name ++ layout.colon ++ v.render layout ++
      renderMembers layout members

end

def Value.compact (v : Value) : String := String.ofList (v.render .compact)

def Value.pretty (v : Value) : String := String.ofList (v.render (.indented 0))

end OrchestrationGraph.Json
