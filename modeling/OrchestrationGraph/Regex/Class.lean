import OrchestrationGraph.Text.Blank
import OrchestrationGraph.Text.Digit
import OrchestrationGraph.Text.Lowercase
import OrchestrationGraph.Text.WordChar

/-!
# Classes of characters in regular expressions

The classes that have a name or a letter, and what ignoring letter case does to a class.
-/

namespace OrchestrationGraph.Regex

abbrev Class := Char → Bool

namespace Class

def union (p q : Class) : Class := fun c => p c || q c

def negate (p : Class) : Class := fun c => !p c

def range (first last : Char) : Class := fun c => first ≤ c && c ≤ last

def ofText (s : String) : Class := fun c => s.toList.contains c

def none : Class := fun _ => false

/-! ### Letter case -/

/-- The letter that stands for all forms of a letter. -/
def folded (c : Char) : Char :=
  if c = '\u017F' then 's'
  else match Text.lowerChar c with
    | [l] => l
    | _ => c

/-- The characters beyond ASCII whose lower case is `l`. -/
def capitals (l : Char) : List Char :=
  Text.lowerRuns.toList.filterMap fun (first, last, step, delta) =>
    let n := (l.toNat - delta).toNat
    if first ≤ n && n ≤ last && (n - first) % step == 0 then some (Char.ofNat n) else Option.none

/-- A character and those that differ from it in letter case alone. -/
def caseForms (c : Char) : List Char :=
  let l := folded c
  c :: l :: l.toUpper :: capitals l ++ if l = 's' then ['\u017F'] else []

/-- The class without regard to letter case. -/
def anyCase (p : Class) : Class := fun c => (caseForms c).any p

/-! ### Named classes -/

/-- The class of a letter after a backslash, within ASCII or not. -/
def lettered? (ascii : Bool) (letter : Char) : Option Class :=
  match letter with
  | 'd' => some (if ascii then Char.isDigit else Text.isDecimalDigit)
  | 's' => some (if ascii then ofText " \t\n\r\x0b\x0c" else Text.isBlank)
  | 'w' => some (if ascii then Text.isAsciiWord else Text.isWord)
  | _ => Option.none

def isPunctuation : Class :=
  (range '!' '/').union ((range ':' '@').union ((range '[' '\x60').union (range '\x7b' '~')))

/-- The classes of ASCII characters that have a name. -/
def asciiNamed : List (String × Class) := [
  ("alnum", Char.isAlphanum), ("alpha", Char.isAlpha), ("ascii", fun c => c.toNat < 0x80),
  ("blank", ofText " \t"), ("cntrl", fun c => c.toNat < 0x20 || c.toNat = 0x7F),
  ("digit", Char.isDigit), ("graph", range '!' '~'), ("lower", Char.isLower),
  ("print", range ' ' '~'), ("punct", isPunctuation), ("space", ofText " \t\n\r\x0b\x0c"),
  ("upper", Char.isUpper), ("word", Text.isAsciiWord),
  ("xdigit", fun c => c.isDigit || range 'a' 'f' c || range 'A' 'F' c)]

end Class

end OrchestrationGraph.Regex
