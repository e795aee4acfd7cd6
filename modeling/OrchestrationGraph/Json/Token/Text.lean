import OrchestrationGraph.Json.Token.Number
import OrchestrationGraph.Text.Offset

/-!
# Quoted text in a JSON text

Characters, short escapes, and numbers after `\u`, of which two may make up one character.
-/

namespace OrchestrationGraph.Json

/-- One part of a quoted text: a character, or the number after `\u`. -/
inductive Unit16 where
  | char (c : Char)
  | code (n : Nat)

/-- How a quoted text ends. -/
inductive TextEnd where
  | closed
  | endOfText
  | unknownEscape
  | badDigits
  | control
  deriving DecidableEq

def TextEnd.fault? : TextEnd → Option Fault
  | closed => none
  | endOfText => some .endInText
  | unknownEscape | badDigits => some .invalidEscape
  | control => some .controlCharacter

def hexValue? (c : Char) : Option Nat :=
  if isDigit c then some (digitValue c)
  else if 'a' ≤ c && c ≤ 'f' then some (c.toNat - 'a'.toNat + 10)
  else if 'A' ≤ c && c ≤ 'F' then some (c.toNat - 'A'.toNat + 10)
  else none

def hexNumber? (l : List Char) : Option Nat :=
  l.foldlM (fun n c => (hexValue? c).map (n * 16 + ·)) 0

def shortEscape? (c : Char) : Option Char :=
  if c = '"' || c = '\\' || c = '/' then some c
  else if c = 'b' then some '\x08'
  else if c = 'f' then some '\x0c'
  else if c = 'n' then some '\n'
  else if c = 'r' then some '\r'
  else if c = 't' then some '\t'
  else none

/-- Reads up to the closing quote. -/
def readUnits : List Char → List Unit16 × TextEnd × List Char
  | [] => ([], .endOfText, [])
  | '"' :: rest => ([], .closed, rest)
  | ['\\'] => ([], .endOfText, [])
  | '\\' :: 'u' :: rest =>
    if Text.byteLength (rest.take 4) < 4 then ([], .endOfText, [])
    else match hexNumber? (rest.take 4) with
      | none => ([], .badDigits, [])
      | some n =>
        let (units, ending, after) := readUnits (rest.drop 4)
        (.code n :: units, ending, after)
  | '\\' :: c :: rest =>
    match shortEscape? c with
    | none => ([], .unknownEscape, [])
    | some c =>
      let (units, ending, after) := readUnits rest
      (.char c :: units, ending, after)
  | c :: rest =>
    if c.toNat < 0x20 then ([], .control, [])
    else
      let (units, ending, after) := readUnits rest
      (.char c :: units, ending, after)
termination_by l => l.length
decreasing_by all_goals simp only [List.length_cons, List.length_drop]; omega

theorem readUnits_length (l : List Char) : (readUnits l).2.2.length ≤ l.length := by
  fun_induction readUnits l <;> simp_all <;> omega

def isLeading (n : Nat) : Bool := 0xD800 ≤ n && n ≤ 0xDBFF

def isTrailing (n : Nat) : Bool := 0xDC00 ≤ n && n ≤ 0xDFFF

def joined (leading trailing : Nat) : Char :=
  Char.ofNat ((leading - 0xD800) * 0x400 + (trailing - 0xDC00) + 0x10000)

/-- What a reader meets that has just seen the first half of a surrogate pair and nothing after it
but the way the text ends. -/
def TextEnd.afterLeading : TextEnd → Fault
  | endOfText => .endInText
  | badDigits => .invalidEscape
  | _ => .unfinishedSurrogate

def joinUnits (ending : TextEnd) : List Unit16 → Except Fault (List Char)
  | [] => match ending.fault? with
    | none => .ok []
    | some f => .error f
  | .char c :: rest => (joinUnits ending rest).map (c :: ·)
  | .code n :: rest =>
    if isTrailing n then .error .loneSurrogate
    else if isLeading n then
      match rest with
      | [] => .error ending.afterLeading
      | .char _ :: _ => .error .unfinishedSurrogate
      | .code m :: rest =>
        if isTrailing m then (joinUnits ending rest).map (joined n m :: ·)
        else .error .loneSurrogate
    else (joinUnits ending rest).map (Char.ofNat n :: ·)

/-- Reads a text whose opening quote has been passed. -/
def readText (l : List Char) : Token × List Char :=
  let (units, ending, rest) := readUnits l
  let read := joinUnits ending units
  match ending.fault? with
  | none => (.text (read.map String.ofList), rest)
  | some skipping =>
    match read with
    | .error fault => (.brokenText fault skipping, [])
    | .ok _ => (.brokenText skipping skipping, [])

theorem readText_length (l : List Char) : (readText l).2.length ≤ l.length := by
  have := readUnits_length l
  unfold readText
  dsimp only
  split
  · exact this
  · split <;> exact Nat.zero_le _

end OrchestrationGraph.Json
