import OrchestrationGraph.Machine.Shell.State

/-!
# Formatted output

Formats with escapes and conversions, which are used again as long as there are words for them.

The shell stands in for external tools in trial runs; nothing here is part of the program.
-/

namespace OrchestrationGraph.Machine.Shell

def isOctal (c : Char) : Bool := '0' ≤ c && c ≤ '7'

def octalValue (l : List Char) : UInt8 :=
  (l.foldl (fun n d => n * 8 + (d.toNat - '0'.toNat)) 0).toUInt8

def controlByte? : Char → Option UInt8
  | 'a' => some 7
  | 'b' => some 8
  | 'e' => some 27
  | 'f' => some 12
  | 'n' => some 10
  | 'r' => some 13
  | 't' => some 9
  | 'v' => some 11
  | '\\' => some 92
  | _ => none

/-- The bytes of an escape after its backslash, and the rest. -/
def readEscape (l : List Char) : List UInt8 × List Char :=
  let digits := (l.take 3).takeWhile isOctal
  if !digits.isEmpty then ([octalValue digits], l.drop digits.length)
  else match l with
    | c :: rest =>
      match controlByte? c with
      | some b => ([b], rest)
      | none => (92 :: bytesOf (String.singleton c), rest)
    | [] => ([92], [])

/-- Resolves escapes as they are written in words, where a zero stands before octal digits; a `\c`
ends all output, which the second value tells. -/
def unescape : (steps : Nat) → List Char → List UInt8 × Bool
  | 0, _ | _, [] => ([], false)
  | _, '\\' :: 'c' :: _ => ([], true)
  | steps + 1, '\\' :: '0' :: rest =>
    let digits := (rest.take 3).takeWhile isOctal
    let (bytes, ended) := unescape steps (rest.drop digits.length)
    (octalValue digits :: bytes, ended)
  | steps + 1, '\\' :: rest =>
    let (first, after) := readEscape rest
    let (bytes, ended) := unescape steps after
    (first ++ bytes, ended)
  | steps + 1, c :: rest =>
    let (bytes, ended) := unescape steps rest
    (bytesOf (String.singleton c) ++ bytes, ended)

def unescapeAll (s : String) : List UInt8 × Bool := unescape (s.length + 1) s.toList

/-! ### Conversions -/

structure Conversion where
  left : Bool := false
  zeros : Bool := false
  plus : Bool := false
  space : Bool := false
  alternate : Bool := false
  width : Nat := 0
  precision : Option Nat := none

def Conversion.pad (c : Conversion) (bytes : List UInt8) : List UInt8 :=
  let fill := List.replicate (c.width - bytes.length) 32
  if c.left then bytes ++ fill else fill ++ bytes

def Conversion.text (c : Conversion) (bytes : List UInt8) : List UInt8 :=
  c.pad ((c.precision.map bytes.take).getD bytes)

def Conversion.number (c : Conversion) (negative : Bool) (mark : String) (digits : String) :
    List UInt8 :=
  let sign := if negative then "-" else if c.plus then "+" else if c.space then " " else ""
  let digits := if c.precision = some 0 && digits = "0" then "" else digits
  let atLeast := match c.precision with
    | some n => n
    | none => if c.zeros && !c.left then c.width - sign.length - mark.length else 0
  c.pad (bytesOf (sign ++ mark ++ "".pushn '0' (atLeast - digits.length) ++ digits))

/-- The flags, width and precision of a conversion, and what follows them; a star takes a word. -/
def readConversion (l : List Char) (words : List String) :
    Conversion × List Char × List String :=
  let flags := l.takeWhile ['-', '0', '+', ' ', '#'].contains
  let l := l.drop flags.length
  let c : Conversion := {
    left := flags.contains '-'
    zeros := flags.contains '0'
    plus := flags.contains '+'
    space := flags.contains ' '
    alternate := flags.contains '#' }
  let nat (l : List Char) : Nat := l.foldl (fun n d => n * 10 + (d.toNat - '0'.toNat)) 0
  let size (l : List Char) (words : List String) : Int × List Char × List String :=
    match l with
    | '*' :: rest => (((words.head?.bind String.toInt?).getD 0), rest, words.tail)
    | _ => ((nat (l.takeWhile Char.isDigit) : Nat), l.dropWhile Char.isDigit, words)
  let (width, l, words) := size l words
  let c := { c with width := width.natAbs, left := c.left || width < 0 }
  match l with
  | '.' :: rest =>
    let (precision, l, words) := size rest words
    ({ c with precision := if precision < 0 then none else some precision.toNat }, l, words)
  | _ => (c, l, words)

def numberValue (s : String) : Int × Option String :=
  match s.toList with
  | '\x27' :: c :: _ | '"' :: c :: _ => 
    ((((bytesOf (String.singleton c)).headD 0).toNat : Nat), none)
  | l =>
    let l := l.dropWhile fun c => c = ' ' || c = '\t' || c = '\n'
    let negative := l.head? = some '-'
    let unsigned := if negative || l.head? = some '+' then l.tail else l
    let hex (c : Char) := c.isDigit || ('a' ≤ c.toLower && c.toLower ≤ 'f')
    let value (base : Nat) (l : List Char) : Nat := l.foldl (fun n c =>
      n * base + if c.isDigit then c.toNat - '0'.toNat else c.toLower.toNat - 'a'.toNat + 10) 0
    let (digits, n) := match unsigned with
      | '0' :: x :: rest =>
        if (x = 'x' || x = 'X') && rest.head?.any hex then
          ('0' :: x :: rest.takeWhile hex, value 16 (rest.takeWhile hex))
        else ('0' :: (x :: rest).takeWhile isOctal, value 8 ((x :: rest).takeWhile isOctal))
      | l => (l.takeWhile Char.isDigit, value 10 (l.takeWhile Char.isDigit))
    let n : Int := if negative then -n else n
    if digits.isEmpty then
      (0, if s.isEmpty then none else some (s ++ ": expected numeric value"))
    else if digits.length < unsigned.length then (n, some (s ++ ": not completely converted"))
    else if n < -0x8000000000000000 then
      (-0x8000000000000000, some (s ++ ": Numerical result out of range"))
    else if 0x7fffffffffffffff < n then
      (0x7fffffffffffffff, some (s ++ ": Numerical result out of range"))
    else (n, none)

/-- One conversion: its bytes, whether all output ends there, and what is wrong with the word. -/
def convert (c : Conversion) (letter : Char) (word : String) :
    Option (List UInt8 × Bool × Option String) :=
  let digits (base : Nat) (n : Nat) : String := String.ofList (Nat.toDigits base n)
  let (n, fault) := numberValue word
  let unsigned (n : Int) : Nat := (n.emod 0x10000000000000000).toNat
  let unsignedForm : Conversion := { c with plus := false, space := false }
  match letter with
  | 's' => some (c.text (bytesOf word), false, none)
  | 'c' => some (c.pad ((bytesOf word ++ [0]).take 1), false, none)
  | 'b' =>
    let (bytes, ended) := unescapeAll word
    some (c.text bytes, ended, none)
  | 'd' | 'i' => some (c.number (n < 0) "" (digits 10 n.natAbs), false, fault)
  | 'u' => some (unsignedForm.number false "" (digits 10 (unsigned n)), false, fault)
  | 'o' =>
    some (unsignedForm.number false (if c.alternate then "0" else "")
      (digits 8 (unsigned n)), false, fault)
  | 'x' =>
    some (unsignedForm.number false (if c.alternate && n ≠ 0 then "0x" else "")
      (digits 16 (unsigned n)), false, fault)
  | 'X' =>
    some (unsignedForm.number false (if c.alternate && n ≠ 0 then "0X" else "")
      (Text.asciiUpper (digits 16 (unsigned n))), false, fault)
  | _ => none

structure Round where
  words : List String
  bytes : List UInt8 := []
  tookWords : Bool := false
  ended : Bool := false
  faults : List String := []
  /-- Whether a part of the format is none. -/
  isBroken : Bool := false

def Round.break (r : Round) (directive : String) : Round :=
  let fault := directive ++ ": invalid directive"
  { r with ended := true, isBroken := true, faults := r.faults ++ [fault] }

def formatOnce : (steps : Nat) → Round → List Char → Round
  | 0, r, _ | _, r, [] => r
  | steps + 1, r, '\\' :: rest =>
    let (bytes, after) := readEscape rest
    formatOnce steps { r with bytes := r.bytes ++ bytes } after
  | steps + 1, r, '%' :: '%' :: rest => formatOnce steps { r with bytes := r.bytes ++ [37] } rest
  | steps + 1, r, '%' :: rest =>
    let (c, after, words) := readConversion rest r.words
    let directive := String.ofList ('%' :: rest.take (rest.length - after.length + 1))
    match after with
    | letter :: after =>
      match convert c letter (words.headD "") with
      | some (bytes, ended, fault) =>
        let r := { r with
          words := words.tail
          bytes := r.bytes ++ bytes
          tookWords := true
          ended
          faults := r.faults ++ fault.toList }
        if ended then r else formatOnce steps r after
      | none => r.break directive
    | [] => r.break directive
  | steps + 1, r, c :: rest =>
    formatOnce steps { r with bytes := r.bytes ++ bytesOf (String.singleton c) } rest

/-- Rounds of a format as long as there are words for it. -/
def formatAll (format : String) : (rounds : Nat) → Round → Round
  | 0, r => r
  | rounds + 1, r =>
    let next := formatOnce (format.length + 1) r format.toList
    if next.ended || next.words.isEmpty || !next.tookWords then next
    else formatAll format rounds next

def formatWords (format : String) (words : List String) : Round :=
  formatAll format (words.length + 1) { words }

end OrchestrationGraph.Machine.Shell
