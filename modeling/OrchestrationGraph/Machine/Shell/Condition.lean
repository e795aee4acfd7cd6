import OrchestrationGraph.Machine.Disk
import OrchestrationGraph.Text.Blank

/-!
# Conditions of a shell

Tests of texts, numbers and files.

The shell stands in for external tools in trial runs; nothing here is part of the program.
-/

namespace OrchestrationGraph.Machine.Shell.Condition

def number (s : String) : Except String Int :=
  let l := (Text.trim s).toList
  let isNegative := l.head? = some '-'
  let digits := if isNegative || l.head? = some '+' then l.tail else l
  if digits.isEmpty || !digits.all Char.isDigit then .error ("Illegal number: " ++ s)
  else
    let n : Int := (digits.foldl (fun n d => n * 10 + (d.toNat - '0'.toNat)) 0 : Nat)
    .ok (if isNegative then -n else n)

def unaryOperators : List String := [
  "-r", "-w", "-x", "-e", "-f", "-d", "-c", "-b", "-p", "-u", "-g", "-k", "-s", "-t", "-z", "-n",
  "-h", "-O", "-G", "-L", "-S"]

def binaryOperators : List String := [
  "=", "!=", "<", ">", "-eq", "-ne", "-ge", "-gt", "-le", "-lt", "-nt", "-ot", "-ef"]

def unary (d : Disk) (operator s : String) : Bool :=
  let item? := d.item? s
  match operator with
  | "-n" => !s.isEmpty
  | "-z" => s.isEmpty
  | "-e" | "-r" | "-w" | "-O" | "-G" => item?.isSome
  | "-f" => item?.any (· matches .file ..)
  | "-d" => item?.any Item.isFolder
  | "-s" =>
    item?.any (fun
      | .file content _ => content.size ≠ 0
      | i => i.isFolder)
  | "-x" =>
    item?.any (fun
      | .file _ runnable => runnable
      | i => i.isFolder)
  | "-h" | "-L" =>
    match d.resolve false s with
    | .ok (_, some (.link _)) => true
    | _ => false
  | "-c" => item?.any (· matches .device _)
  | _ => false

def binary (d : Disk) (a operator b : String) : Except String Bool := do
  let compare (f : Int → Int → Bool) : Except String Bool := return f (← number a) (← number b)
  match operator with
  | "=" => return a = b
  | "!=" => return a ≠ b
  | "<" => return a < b
  | ">" => return b < a
  | "-eq" => compare fun x y => x = y
  | "-ne" => compare fun x y => x ≠ y
  | "-lt" => compare fun x y => x < y
  | "-le" => compare fun x y => x ≤ y
  | "-gt" => compare fun x y => x > y
  | "-ge" => compare fun x y => x ≥ y
  | "-ef" =>
    match d.resolve true a, d.resolve true b with
    | .ok (place, some _), .ok (other, some _) => return place = other
    | _, _ => return false
  | _ => return false

inductive Sign where
  | nothing
  | operand
  | unary (operator : String)
  | negation
  | both
  | either
  | opening
  | closing
  | binary (operator : String)
  deriving DecidableEq

/-- What the first word is taken for; a test of one text needs a text that is no part of a
comparison. -/
def sign : List String → Sign
  | [] => .nothing
  | w :: rest =>
    if w = "!" then .negation
    else if w = "-a" then .both
    else if w = "-o" then .either
    else if w = "(" then (if rest.isEmpty then .operand else .opening)
    else if w = ")" then .closing
    else if binaryOperators.contains w then .binary w
    else if unaryOperators.contains w then
      match rest with
      | [] => .operand
      | [_] => .unary w
      | next :: _ => if binaryOperators.contains next then .operand else .unary w
    else .operand

mutual

/-- The value of the words from one on that is taken for `first`, and the words from the last one of
the condition on. -/
def readEither (d : Disk) (first : Sign) : (steps : Nat) → List String →
    Except String (Bool × List String)
  | 0, _ => .error "argument expected"
  | steps + 1, l => do
    let (value, l) ← readBoth d first steps l
    if sign l.tail = .either then
      let (more, l) ← readEither d (sign (l.drop 2)) steps (l.drop 2)
      return (value || more, l)
    return (value, l)

def readBoth (d : Disk) (first : Sign) : (steps : Nat) → List String →
    Except String (Bool × List String)
  | 0, _ => .error "argument expected"
  | steps + 1, l => do
    let (value, l) ← readNegation d first steps l
    if sign l.tail = .both then
      let (more, l) ← readBoth d (sign (l.drop 2)) steps (l.drop 2)
      return (value && more, l)
    return (value, l)

def readNegation (d : Disk) (first : Sign) : (steps : Nat) → List String →
    Except String (Bool × List String)
  | 0, _ => .error "argument expected"
  | steps + 1, l => do
    if first ≠ .negation then readPrimary d first steps l
    else
      let next := sign l.tail
      let (value, l) ← readNegation d next steps (if next = .nothing then l else l.tail)
      return (!value, l)

def readPrimary (d : Disk) (first : Sign) : (steps : Nat) → List String →
    Except String (Bool × List String)
  | 0, _ => .error "argument expected"
  | steps + 1, l => do
    match first, l with
    | .nothing, _ => return (false, l)
    | .opening, _ =>
      if sign l.tail = .closing then return (false, l.tail)
      let (value, l) ← readEither d (sign l.tail) steps l.tail
      if sign l.tail ≠ .closing then throw "closing paren expected"
      return (value, l.tail)
    | .unary operator, _ :: s :: rest => return (unary d operator s, s :: rest)
    | .unary operator, _ => throw (operator ++ ": argument expected")
    | _, a :: rest =>
      match sign rest, rest with
      | .binary operator, _ :: b :: rest => return (← binary d a operator b, b :: rest)
      | .binary operator, _ => throw (operator ++ ": argument expected")
      | _, _ => return (!a.isEmpty, l)
    | _, [] => return (false, [])

end

def whole (d : Disk) (first : Sign) (l : List String) : Except String Bool := do
  let (value, after) ← readEither d first (4 * l.length + 4) l
  match after with
  | w :: _ :: _ => throw (if w.isEmpty then "unexpected operator" else w ++ ": unexpected operator")
  | _ => return value

/-- The value of a condition; `steps` bounds the number of words that deny it. -/
def holds (d : Disk) : (steps : Nat) → List String → Except String Bool
  | 0, _ | _, [] => .ok false
  | steps + 1, l =>
    match l with
    | [_, operator, _] | [_, operator, _, _] =>
      if l.length = 3 && binaryOperators.contains operator then whole d .operand l
      else if l.head? = some "(" && l.getLast? = some ")" then
        whole d (sign l.tail.dropLast) l.tail.dropLast
      else if l.head? = some "!" then
        match l.tail with
        | [] => return true
        | rest => return !(← holds d steps rest)
      else whole d (sign l) l
    | _ => whole d (sign l) l

end OrchestrationGraph.Machine.Shell.Condition
