import OrchestrationGraph.Text.Printable

/-!
# Quoted text

Text between double quotes with everything invisible spelled out: the usual short escapes, and the
code point in braces for characters without a glyph or joined to their neighbour.
-/

namespace OrchestrationGraph.Text

/-- Lower-case hexadecimal digits, without leading zeros. -/
def hexText (n : Nat) : List Char := Nat.toDigits 16 n

/-- `\u` and the code point in braces. -/
def numberedChar (c : Char) : List Char :=
  ['\\', 'u', Char.ofNat 0x7B] ++ hexText c.toNat ++ [Char.ofNat 0x7D]

def quotedChar (c : Char) : List Char :=
  if c = Char.ofNat 0 then ['\\', '0']
  else if c = '\t' then ['\\', 't']
  else if c = '\r' then ['\\', 'r']
  else if c = '\n' then ['\\', 'n']
  else if c = '"' then ['\\', '"']
  else if c = '\\' then ['\\', '\\']
  else if isExtending c || !isPrintable c then numberedChar c
  else [c]

def quoted (s : String) : String :=
  String.ofList ('"' :: s.toList.flatMap quotedChar ++ ['"'])

end OrchestrationGraph.Text
