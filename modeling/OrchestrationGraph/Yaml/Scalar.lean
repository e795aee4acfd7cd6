import OrchestrationGraph.Yaml.Number
import OrchestrationGraph.Text.Offset

/-!
# Texts in YAML

A text is written plain if it may be, else between single quotes, as a literal block if it has line
ends, or between double quotes with escapes if nothing else can hold it.
-/

namespace OrchestrationGraph.Yaml

/-! ### Characters -/

def isBreak (c : Char) : Bool :=
  c = '\n' || c = '\r' || c = '\u0085' || c = '\u2028' || c = '\u2029'

/-- A blank, a tab, a line break or NUL. -/
def isGap (c : Char) : Bool := c = ' ' || c = '\t' || isBreak c || c.toNat = 0

/-- Characters that may stand unescaped. -/
def isPrintable (c : Char) : Bool :=
  let n := c.toNat
  n = 0xA || (0x20 ≤ n && n ≤ 0x7E) || (0xA0 ≤ n && n ≤ 0xD7FF) ||
    (0xE000 ≤ n && n ≤ 0xFFFD && n ≠ 0xFEFF) || 0x10000 ≤ n

/-- Characters that cannot begin a plain text. -/
def isLeadingIndicator (c : Char) : Bool := "#,[]\x7b\x7d&*!|>'\"%@\x60".toList.contains c

/-! ### Plain text -/

/-- Whether each character may stand after the one before it, within a plain text. -/
def plainTail : (before : Char) → List Char → Bool
  | _, [] => true
  | before, c :: rest =>
    !(c = ':' && rest.head?.all isGap) && !(c = '#' && isGap before) && plainTail c rest

/-- Whether a text can stand without quotes as far as indicators go. -/
def plainIndicators : List Char → Bool
  | [] => true
  | c :: rest =>
    !isLeadingIndicator c &&
      !((c = '?' || c = ':' || c = '-') && rest.head?.all isGap) &&
      !(['-', '-', '-'].isPrefixOf (c :: rest) || ['.', '.', '.'].isPrefixOf (c :: rest)) &&
      plainTail c rest

/-- A character of the first class directly before one of the second. -/
def hasPair (p q : Char → Bool) : List Char → Bool
  | a :: b :: rest => (p a && q b) || hasPair p q (b :: rest)
  | _ => false

structure Traits where
  empty : Bool
  /-- It has a character that must be escaped. -/
  special : Bool
  multiline : Bool
  /-- It has a blank or a line break at an end. -/
  looseEnds : Bool
  trailingBlank : Bool
  /-- A blank follows a line break. -/
  breakBlank : Bool
  /-- A line break follows a blank. -/
  blankBreak : Bool
  indicators : Bool

def isBlank (c : Char) : Bool := c = ' '

def traits (l : List Char) : Traits where
  empty := l.isEmpty
  special := !l.all isPrintable
  multiline := l.any isBreak
  looseEnds := l.head?.any (fun c => isBlank c || isBreak c) ||
    l.getLast?.any (fun c => isBlank c || isBreak c)
  trailingBlank := l.getLast?.any isBlank
  breakBlank := hasPair isBreak isBlank l
  blankBreak := hasPair isBlank isBreak l
  indicators := !plainIndicators l

namespace Traits

def plainAllowed (t : Traits) : Bool :=
  !t.looseEnds && !t.breakBlank && !t.blankBreak && !t.special && !t.multiline && !t.indicators

def singleAllowed (t : Traits) : Bool := !t.breakBlank && !t.blankBreak && !t.special

def literalAllowed (t : Traits) : Bool :=
  !t.empty && !t.trailingBlank && !t.blankBreak && !t.special

end Traits

/-! ### Styles -/

inductive Style where
  | plain
  | single
  | double
  | literal
  deriving DecidableEq, Repr

/-- A name on one line is written in front of its colon if it is no longer than this. -/
def simpleNameBound : Nat := 128

def isSimpleName (l : List Char) : Bool :=
  !(traits l).multiline && Text.byteLength l ≤ simpleNameBound

/-- The style of a text; a simple name is never a block. -/
def style (simpleName : Bool) (s : String) : Style :=
  let t := traits s.toList
  if s.toList.contains '\n' then
    if t.literalAllowed && !simpleName then .literal else .double
  else if !isAmbiguous s && t.plainAllowed then .plain
  else if t.singleAllowed then .single
  else .double

/-! ### Writing -/

def blanks (n : Nat) : List Char := List.replicate n ' '

/-- Single quotes are doubled. A line break leads to a new line with its indentation. -/
def singleQuoted (indent : Nat) : List Char → List Char
  | [] => []
  | c :: rest =>
    if isBreak c then
      c :: (if rest.head?.any isBreak then [] else blanks indent) ++ singleQuoted indent rest
    else if c = '\x27' then c :: c :: singleQuoted indent rest
    else c :: singleQuoted indent rest

/-- Capital hexadecimal digits, as many as `width`. -/
def hexText (width n : Nat) : List Char :=
  let digits := (Nat.toDigits 16 n).map Char.toUpper
  List.replicate (width - digits.length) '0' ++ digits

def shortEscapes : List (Nat × Char) := [
  (0x00, '0'), (0x07, 'a'), (0x08, 'b'), (0x09, 't'), (0x0A, 'n'), (0x0B, 'v'), (0x0C, 'f'),
  (0x0D, 'r'), (0x1B, 'e'), (0x22, '"'), (0x5C, '\\'), (0x85, 'N'), (0xA0, '_'), (0x2028, 'L'),
  (0x2029, 'P')]

def escaped (c : Char) : List Char :=
  let n := c.toNat
  match shortEscapes.lookup n with
  | some letter => ['\\', letter]
  | none =>
    if n ≤ 0xFF then '\\' :: 'x' :: hexText 2 n
    else if n ≤ 0xFFFF then '\\' :: 'u' :: hexText 4 n
    else '\\' :: 'U' :: hexText 8 n

def doubleQuotedChar (c : Char) : List Char :=
  if !isPrintable c || isBreak c || c = '"' || c = '\\' then escaped c else [c]

/-- Lines of a block; `atBreak` tells that a line begins here. -/
def literalLines (indent : Nat) : (atBreak : Bool) → List Char → List Char
  | _, [] => []
  | atBreak, c :: rest =>
    if isBreak c then c :: literalLines indent true rest
    else (if atBreak then blanks indent else []) ++ c :: literalLines indent false rest

def indentStep : Nat := 2

/-- Whether the indentation of a block must be given, and what becomes of line ends at its end: they
are cut off, one is kept, or all are kept. -/
def literalHints (l : List Char) : List Char :=
  (if l.head?.any fun c => isBlank c || isBreak c then Nat.toDigits 10 indentStep else []) ++
    match l.reverse with
    | [] => ['-']
    | [c] => if isBreak c then ['+'] else ['-']
    | c :: d :: _ => if !isBreak c then ['-'] else if isBreak d then ['+'] else []

/-- A text as it stands after its mark; `indent` is that of its further lines. -/
def scalar (simpleName : Bool) (indent : Nat) (s : String) : List Char :=
  let l := s.toList
  match style simpleName s with
  | .plain => l
  | .single =>
    '\x27' :: singleQuoted indent l ++ ['\x27']
  | .double => '"' :: l.flatMap doubleQuotedChar ++ ['"']
  | .literal => '|' :: literalHints l ++ '\n' :: literalLines indent true l

/-- The end of the last line of a text; a block may bring its own. -/
def lineEnd (s : String) : List Char :=
  if style false s = .literal && s.toList.getLast?.any isBreak then [] else ['\n']

end OrchestrationGraph.Yaml
