import OrchestrationGraph.Pattern.Basic
import OrchestrationGraph.Text.Blank
import OrchestrationGraph.Text.WordChar

/-!
# Parts of patterns for source code

Classes of characters and small patterns that occur in many others.
-/

namespace OrchestrationGraph.Pattern

/-! ### Characters -/

/-- The double quote, the single quote and the backtick. -/
def isQuote (c : Char) : Bool := c = '"' || c = '\x27' || c = '\x60'

/-- Word characters, white space and the characters given. -/
def wordBlankOr (extra : String) (c : Char) : Bool :=
  Text.isWord c || Text.isBlank c || extra.toList.contains c

def wordOr (extra : String) (c : Char) : Bool := Text.isWord c || extra.toList.contains c

def isNamePart : Char → Bool := wordOr ".-"

/-! ### Pieces -/

def text (s : String) : Pattern := literal s.toList

def anyCase (s : String) : Pattern := folded s.toList

def blanks : Pattern := many Text.isBlank

end OrchestrationGraph.Pattern
