import OrchestrationGraph.Regex.Basic
import OrchestrationGraph.Regex.Class

/-!
# Reading regular expressions

The usual notation: classes in brackets with their set operations, escapes, groups, flags,
alternatives and repetitions with a reluctant form. Counted repetitions, named properties and edges
of Unicode words are refused, as is whatever is no expression.
-/

namespace OrchestrationGraph.Regex

structure Flags where
  anyCase : Bool := false
  /-- Whether `^` and `$` also stand for the ends of lines. -/
  lines : Bool := false
  /-- Whether the dot stands for line breaks as well. -/
  dotAll : Bool := false
  /-- Whether repetitions are reluctant unless marked otherwise. -/
  reluctant : Bool := false
  /-- Whether white space and comments are left out. -/
  spaced : Bool := false
  ascii : Bool := false

/-- A reader that goes through an expression and fails on what is none. It knows the names of the
groups so far. -/
abbrev Reading (α : Type) : Type := StateT (List Char) (StateT (List String) Option) α

/-! ### Characters -/

/-- Takes the text if it comes next. -/
def take (s : String) : Reading Bool := do
  let l ← get
  if s.toList.isPrefixOf l then
    set (l.drop s.length)
    return true
  return false

def takeChar : Reading Char := do
  match ← get with
  | [] => failure
  | c :: rest =>
    set rest
    return c

/-- The rest after white space and comments; `steps` bounds the comments. -/
def afterSpace : (steps : Nat) → List Char → List Char
  | 0, l => l
  | steps + 1, l =>
    match l.dropWhile Text.isBlank with
    | '#' :: rest => afterSpace steps (rest.dropWhile (· ≠ '\n'))
    | rest => rest

def skipSpace (f : Flags) : Reading Unit := do
  if f.spaced then modify fun l => afterSpace (l.length + 1) l

/-! ### Escapes -/

/-- What a backslash and the characters after it, or one other character, stand for. -/
inductive Piece where
  | char (c : Char)
  | cls (p : Class)
  | place (test : Option Char → Option Char → Bool)

def hexValue? (c : Char) : Option Nat :=
  if c.isDigit then some (c.toNat - '0'.toNat)
  else if 'a' ≤ c && c ≤ 'f' then some (c.toNat - 'a'.toNat + 10)
  else if 'A' ≤ c && c ≤ 'F' then some (c.toNat - 'A'.toNat + 10)
  else none

/-- The character whose number is written in so many hexadecimal digits. -/
def readNumbered (digits : Nat) : Reading Char := do
  let l := (← get).take digits
  let values ← (l.mapM hexValue? : Option (List Nat))
  let n := values.foldl (fun n d => n * 16 + d) 0
  if l.length < digits || !n.isValidChar then failure
  modify (·.drop digits)
  return Char.ofNat n

/-- Characters whose escape is a place between word characters and others. -/
def wordPlace? (letter : Char) : Option (Option Char → Option Char → Bool) :=
  let word (c? : Option Char) := c?.any Text.isAsciiWord
  match letter with
  | 'b' => some fun before after => word before != word after
  | 'B' => some fun before after => word before == word after
  | '<' => some fun before after => !word before && word after
  | '>' => some fun before after => word before && !word after
  | _ => none

def controls : List (Char × Char) := [
  ('a', '\x07'), ('f', '\x0c'), ('t', '\t'), ('n', '\n'), ('r', '\r'), ('v', '\x0b')]

/-- Whether the character stands for itself after a backslash. -/
def isPlainEscape (c : Char) : Bool := c.toNat < 0x80 && !c.isAlphanum && c ≠ '<' && c ≠ '>'

/-- Reads what stands after a backslash. Without Unicode a class may not have characters beyond
ASCII; with it no place depends on words. -/
def readEscape (f : Flags) : Reading Piece := do
  let c ← takeChar
  if let some p := Class.lettered? f.ascii c then return .cls p
  if let some p := Class.lettered? f.ascii c.toLower then
    if f.ascii then failure
    return .cls p.negate
  if let some test := wordPlace? c then
    if !f.ascii then failure
    return .place test
  if let some control := controls.lookup c then return .char control
  match c with
  | 'x' => return .char (← readNumbered 2)
  | 'u' => return .char (← readNumbered 4)
  | 'U' => return .char (← readNumbered 8)
  | 'A' => return .place fun before _ => before.isNone
  | 'z' => return .place fun _ after => after.isNone
  | c => if isPlainEscape c then return .char c else failure

/-! ### Classes -/

def readMember (f : Flags) : Reading Piece := do
  if ← take "\\" then readEscape f else return .char (← takeChar)

def Piece.class? : Piece → Option Class
  | char c => some fun x => x = c
  | cls p => some p
  | place _ => none

def readRange (f : Flags) : Reading Class := do
  let first ← readMember f
  skipSpace f
  let l ← get
  let after := if f.spaced then afterSpace l.length (l.drop 1) else l.drop 1
  if l.head? ≠ some '-' || after.head? = some ']' || after.head? = some '-' then
    (first.class? : Option Class)
  else
    set after
    match first, ← readMember f with
    | .char a, .char b => if a ≤ b then return .range a b else failure
    | _, _ => failure

/-- A named class such as `[:alpha:]`, if there is one. -/
def readNamed? : Reading (Option Class) := do
  let l ← get
  match l with
  | '[' :: ':' :: rest =>
    let negated := rest.head? = some '^'
    let rest := if negated then rest.tail else rest
    let name := String.ofList (rest.takeWhile (· ≠ ':'))
    match Class.asciiNamed.lookup name, rest.drop name.length with
    | some p, ':' :: ']' :: rest =>
      set rest
      return some (if negated then p.negate else p)
    | _, _ => return none
  | _ => return none

/-- The operation between two sets of members. -/
def readOperation? : Reading (Option (Class → Class → Class)) := do
  if ← take "&&" then return some fun p q c => p c && q c
  if ← take "--" then return some fun p q c => p c && !q c
  if ← take "~~" then return some fun p q c => p c != q c
  return none

def Flags.fold (f : Flags) (p : Class) : Class := if f.anyCase then p.anyCase else p

/-- The hyphens at the start of a class, or a closing bracket there, stand for themselves. -/
def readStart : Reading Class := do
  let l ← get
  let hyphens := (l.takeWhile (· = '-')).length
  if hyphens ≠ 0 then
    set (l.drop hyphens)
    return fun c => c = '-'
  if ← take "]" then return fun c => c = ']'
  return Class.none

mutual

def readClass (f : Flags) : (steps : Nat) → Reading Class
  | 0 => failure
  | steps + 1 => do
    let negated ← take "^"
    skipSpace f
    let p ← readMembers f id (← readStart) steps
    if negated && f.ascii then failure
    return if negated then p.negate else p

/-- The members of a class up to its closing bracket. They are added to `members`, and `finish`
applies the operation that stands before them. -/
def readMembers (f : Flags) (finish : Class → Class) (members : Class) :
    (steps : Nat) → Reading Class
  | 0 => failure
  | steps + 1 => do
    skipSpace f
    if ← take "]" then return finish (f.fold members)
    if let some p ← readNamed? then return ← readMembers f finish (members.union p) steps
    if ← take "[" then
      let inner ← readClass f steps
      return ← readMembers f finish (members.union inner) steps
    if let some op ← readOperation? then
      let left := finish (f.fold members)
      return ← readMembers f (op left) Class.none steps
    readMembers f finish (members.union (← readRange f)) steps

end

/-! ### Flags -/

/-- Sets one flag or takes it back; white space and line ends of two characters have theirs. -/
def Flags.with? (f : Flags) (on : Bool) : Char → Option Flags
  | 'i' => some { f with anyCase := on }
  | 'm' => some { f with lines := on }
  | 's' => some { f with dotAll := on }
  | 'U' => some { f with reluctant := on }
  | 'x' => some { f with spaced := on }
  | 'u' => some { f with ascii := !on }
  | 'R' => some f
  | _ => none

/-- The flags after letters of which those behind a hyphen are taken back. No letter may stand there
twice. -/
def Flags.after? (f : Flags) (letters : List Char) : Option Flags :=
  let given := letters.takeWhile (· ≠ '-')
  let taken := letters.drop (given.length + 1)
  let set (on : Bool) (f : Flags) (c : Char) := f.with? on c
  if letters.eraseDups.length < letters.length || letters.getLast? = some '-' then none
  else do taken.foldlM (set false) (← given.foldlM (set true) f)

/-! ### Expressions -/

def Flags.oneOf (f : Flags) (p : Class) : Regex := .oneOf (f.fold p)

def readRepetitions (f : Flags) (r : Regex) : (steps : Nat) → Reading Regex
  | 0 => failure
  | steps + 1 => do
    skipSpace f
    let mark := (← get).head?
    if mark ≠ some '*' && mark ≠ some '+' && mark ≠ some '?' then return r
    let _ ← takeChar
    let reluctant := (← take "?") != f.reluctant
    let r := match mark with
      | some '*' => repeated r reluctant
      | some '+' => r.oneOrMore reluctant
      | _ => r.optional reluctant
    readRepetitions f r steps

/-- Takes the name of a group up to its closing bracket; no two groups share one. -/
def readGroupName : Reading Unit := do
  let isStart (c : Char) := c = '_' || (Text.isWord c && !Text.isDecimalDigit c)
  let isPart (c : Char) := Text.isWord c || c = '.' || c = '[' || c = ']'
  let name := (← get).takeWhile (· ≠ '>')
  if !name.head?.any isStart || !name.all isPart then failure
  modify (·.drop name.length)
  if !(← take ">") then failure
  let names ← getThe (List String)
  if names.contains (String.ofList name) then failure
  set (String.ofList name :: names)

/-- Reads a single item that has no parts; what cannot start an item is refused. -/
def readSingle (f : Flags) (c : Char) : Reading Regex := do
  match c with
  | '*' | '+' | '?' | '\x7b' => failure
  | '.' =>
    if f.ascii then failure
    return .oneOf fun c => f.dotAll || c ≠ '\n'
  | '^' => return .between fun before _ => if f.lines then before.all (· = '\n') else before.isNone
  | '$' => return .between fun _ after => if f.lines then after.all (· = '\n') else after.isNone
  | '\\' =>
    match ← readEscape f with
    | .char c => return f.oneOf fun x => x = c
    | .cls p => return f.oneOf p
    | .place test => return .between test
  | c => return f.oneOf fun x => x = c

mutual

/-- Alternatives up to the end or the closing bracket, and the flags there. -/
def readAlternatives (f : Flags) : (steps : Nat) → Reading (Regex × Flags)
  | 0 => failure
  | steps + 1 => do
    let (r, f) ← readItems f .nothing steps
    if ← take "|" then
      let (s, f) ← readAlternatives f steps
      return (either r s, f)
    return (r, f)

/-- Items one after the other, after `before`. -/
def readItems (f : Flags) (before : Regex) : (steps : Nat) → Reading (Regex × Flags)
  | 0 => failure
  | steps + 1 => do
    skipSpace f
    match ← get with
    | [] | '|' :: _ | ')' :: _ => return (before, f)
    | '(' :: rest =>
      set rest
      match ← readGroup f steps with
      | (none, f) => readItems f before steps
      | (some r, _) => readItems f (seq before (← readRepetitions f r (steps + 1))) steps
    | '[' :: rest =>
      set rest
      let r := Regex.oneOf (← readClass f steps)
      readItems f (seq before (← readRepetitions f r (steps + 1))) steps
    | c :: rest =>
      set rest
      let r ← readSingle f c
      readItems f (seq before (← readRepetitions f r (steps + 1))) steps

/-- A group after its opening bracket; none if it only sets flags for what follows. -/
def readGroup (f : Flags) : (steps : Nat) → Reading (Option Regex × Flags)
  | 0 => failure
  | steps + 1 => do
    let isNamed ← (do return (← take "?P<") || (← take "?<"))
    if isNamed then readGroupName
    let hasFlags ← if isNamed then pure false else take "?"
    let letters := (← get).takeWhile fun c => c ≠ ':' && c ≠ ')'
    let inner ← if hasFlags then (f.after? letters : Option Flags) else pure f
    if hasFlags then
      modify (·.drop letters.length)
      if ← take ")" then
        if letters.isEmpty then failure
        return (none, inner)
      if !(← take ":") then failure
    let (r, _) ← readAlternatives inner steps
    if !(← take ")") then failure
    return (some r, f)

end

/-- Reads a whole expression. Between two characters at most three steps are taken. -/
def ofText? (s : String) : Option Regex := do
  let ((r, _), rest) ← ((readAlternatives {} (3 * s.length + 3)).run s.toList).run' []
  if rest.isEmpty then some r else none

end OrchestrationGraph.Regex
