import OrchestrationGraph.Machine.Shell.State

/-!
# Calculations of a shell

Integers of 64 bits, the usual operators by precedence, and variables by name.

The shell stands in for external tools in trial runs; nothing here is part of the program.
-/

namespace OrchestrationGraph.Machine.Shell.Arithmetic

inductive Token where
  | number (n : Int)
  | name (s : String)
  | operator (s : String)
  deriving DecidableEq

/-- Binary operators with their precedence, longer ones first. -/
def operators : List (String × Nat) := [
  ("<<", 8), (">>", 8), ("<=", 7), (">=", 7), ("==", 6), ("!=", 6), ("&&", 2), ("||", 1), ("<", 7),
  (">", 7), ("&", 5), ("^", 4), ("|", 3), ("+", 9), ("-", 9), ("*", 10), ("/", 10), ("%", 10)]

def assignments : List String := ["<<=", ">>=", "+=", "-=", "*=", "/=", "%=", "&=", "|=", "^="]

/-- Operators that are not binary. -/
def marks : List String := ["!", "~", "(", ")", "?", ":", "="]

def wrap (n : Int) : Int := Int.bmod n 0x10000000000000000

/-- The value of the digits that come first, whose base a prefix tells, and what follows them. -/
def readNumber (s : List Char) : Int × List Char :=
  let value (c : Char) : Nat :=
    if c.isDigit then c.toNat - '0'.toNat
    else if 'a' ≤ c.toLower && c.toLower ≤ 'f' then c.toLower.toNat - 'a'.toNat + 10
    else 16
  let read (base : Nat) (l : List Char) : Int × List Char :=
    let digits := l.takeWhile fun c => value c < base
    ((digits.foldl (fun n c => n * base + value c) 0 : Nat), l.drop digits.length)
  match s with
  | '0' :: 'x' :: rest | '0' :: 'X' :: rest => read 16 rest
  | '0' :: _ => read 8 s
  | _ => read 10 s

def tokens : (steps : Nat) → List Char → Option (List Token)
  | 0, _ => none
  | _, [] => some []
  | steps + 1, c :: rest =>
    let l := c :: rest
    if [' ', '\t', '\n'].contains c then tokens steps rest
    else if c.isDigit then do
      let (n, after) := readNumber l
      return .number n :: (← tokens steps after)
    else if isNameStart c then do
      return .name (String.ofList (l.takeWhile isNamePart)) ::
        (← tokens steps (l.dropWhile isNamePart))
    else do
      let o ← (assignments ++ operators.map (·.1) ++ marks).find? fun o => o.toList.isPrefixOf l
      return .operator o :: (← tokens steps (l.drop o.length))

inductive Defect where
  | division
  /-- A number, a name or an expression in parentheses is missing. -/
  | primary
  /-- Something stands after the expression. -/
  | rest
  /-- The value of a variable is no number. -/
  | illegal (value : String)
  deriving DecidableEq

def apply (o : String) (a b : Int) : Except Defect Int :=
  let truth (p : Bool) : Except Defect Int := .ok (if p then 1 else 0)
  let bits (f : Nat → Nat → Nat) : Except Defect Int :=
    .ok (f (a.emod 0x10000000000000000).toNat (b.emod 0x10000000000000000).toNat : Nat)
  match o with
  | "+" => .ok (a + b)
  | "-" => .ok (a - b)
  | "*" => .ok (a * b)
  | "/" => if b = 0 then .error .division else .ok (a.tdiv b)
  | "%" => if b = 0 then .error .division else .ok (a.tmod b)
  | "<<" => .ok (a * (Nat.pow 2 (b.emod 64).toNat : Nat))
  | ">>" => .ok (a.fdiv (Nat.pow 2 (b.emod 64).toNat : Nat))
  | "<" => truth (a < b)
  | "<=" => truth (a ≤ b)
  | ">" => truth (a > b)
  | ">=" => truth (a ≥ b)
  | "==" => truth (a = b)
  | "!=" => truth (a ≠ b)
  | "&" => bits Nat.land
  | "|" => bits Nat.lor
  | "^" => bits Nat.xor
  | "&&" => truth (a ≠ 0 && b ≠ 0)
  | "||" => truth (a ≠ 0 || b ≠ 0)
  | _ => .error .primary

/-- What is left of an expression, and the values it has given to variables so far. -/
structure Course where
  tokens : List Token
  values : List (String × Int) := []

abbrev Reading (α : Type) : Type := StateT Course (Except Defect) α

def take (o : String) : Reading Bool := do
  match (← get).tokens with
  | .operator p :: rest =>
    if p = o then
      modify fun c => { c with tokens := rest }
      return true
    return false
  | _ => return false

/-- Values of variables, those that the expression has given first. -/
def Course.value (outer : String → Except Defect Int) (c : Course) (name : String) :
    Except Defect Int :=
  match c.values.lookup name with
  | some n => .ok n
  | none => outer name

/-- The operator that an assignment applies, if it applies one. -/
def assignment? (o : String) : Option (Option String) :=
  if o = "=" then some none
  else if assignments.contains o then some (some (o.dropEnd 1).toString)
  else none

mutual

/-- An assignment, a condition with its two answers, or what binds more tightly. -/
def readChoice (outer : String → Except Defect Int) : (steps : Nat) → Reading Int
  | 0 => throw .primary
  | steps + 1 => do
    match (← get).tokens with
    | .name s :: .operator o :: rest =>
      match assignment? o with
      | some operator =>
        modify fun c => { c with tokens := rest }
        let right ← readChoice outer steps
        let c ← get
        let n ← (match operator with
          | none => .ok right
          | some o => do apply o (← c.value outer s) right : Except Defect Int)
        modify fun c => { c with values := (s, wrap n) :: c.values }
        return wrap n
      | none => readTest outer steps
    | _ => readTest outer steps

def readTest (outer : String → Except Defect Int) : (steps : Nat) → Reading Int
  | 0 => throw .primary
  | steps + 1 => do
    let test ← readBinary outer 1 (← readUnary outer steps) steps
    if ← take "?" then
      let yes ← readChoice outer steps
      if !(← take ":") then throw .primary
      let no ← readChoice outer steps
      return if test ≠ 0 then yes else no
    return test

/-- Goes on after `left` with operators of at least the precedence `least`. -/
def readBinary (outer : String → Except Defect Int) (least : Nat) (left : Int) :
    (steps : Nat) → Reading Int
  | 0 => throw .primary
  | steps + 1 => do
    match (← get).tokens with
    | .operator o :: rest =>
      match operators.lookup o with
      | some precedence =>
        if precedence < least then return left
        modify fun c => { c with tokens := rest }
        let right ← readBinary outer (precedence + 1) (← readUnary outer steps) steps
        let result ← (apply o left right : Except Defect Int)
        readBinary outer least (wrap result) steps
      | none => return left
    | _ => return left

def readUnary (outer : String → Except Defect Int) : (steps : Nat) → Reading Int
  | 0 => throw .primary
  | steps + 1 => do
    match (← get).tokens with
    | .number n :: rest =>
      modify fun c => { c with tokens := rest }
      return wrap n
    | .name s :: rest =>
      modify fun c => { c with tokens := rest }
      ((← get).value outer s : Except Defect Int)
    | .operator o :: rest =>
      modify fun c => { c with tokens := rest }
      match o with
      | "-" => return wrap (-(← readUnary outer steps))
      | "+" => readUnary outer steps
      | "!" => return if (← readUnary outer steps) = 0 then 1 else 0
      | "~" => return -(← readUnary outer steps) - 1
      | "(" =>
        let n ← readChoice outer steps
        if ← take ")" then return n else throw .primary
      | _ => throw .primary
    | [] => throw .primary

end

/-- The value of an expression, and those it gives to variables, the last one first; an empty
expression is zero. -/
def evaluate (outer : String → Except Defect Int) (l : List Char) :
    Except Defect (Int × List (String × Int)) := do
  match tokens (l.length + 1) l with
  | none => throw .primary
  | some [] => return (0, [])
  | some ts =>
    let (n, c) ← (readChoice outer (4 * ts.length + 4)).run { tokens := ts }
    if c.tokens.isEmpty then return (n, c.values) else throw .rest

end OrchestrationGraph.Machine.Shell.Arithmetic
