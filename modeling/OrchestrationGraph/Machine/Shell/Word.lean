import OrchestrationGraph.Text.Blank

/-!
# Words of a shell script

A word is a row of parts: text, and what is put in its place only when the script runs. A script is
read as words, operators and redirections.

The shell stands in for external tools in trial runs; nothing here is part of the program.
-/

namespace OrchestrationGraph.Machine.Shell

inductive Change where
  | keep
  | length
  /-- Another word takes the place of a missing value. -/
  | orElse
  /-- The same, and the parameter gets it as its value. -/
  | assign
  /-- It is a fault if there is no value. -/
  | require
  /-- Another word takes the place of a value. -/
  | replace
  /-- What matches a pattern is taken off at one end. -/
  | trim (atEnd longest : Bool)
  deriving DecidableEq

inductive Part where
  | text (s : List Char) (quoted : Bool)
  /-- A parameter; with `orEmpty` an empty value counts as none. -/
  | parameter (name : String) (change : Change) (orEmpty : Bool) (word : List Part) (quoted : Bool)
  /-- What a script of its own prints. -/
  | output (script : List Char) (quoted : Bool)
  /-- The value of a calculation. -/
  | number (expression : List Part) (quoted : Bool)

abbrev Word := List Part

/-! ### Characters -/

/-- Characters that end a word. -/
def endsWord (c : Char) : Bool :=
  [' ', '\t', '\n', ';', '<', '>', '&', '|', '(', ')'].contains c

def isNameStart (c : Char) : Bool := c.isAlpha || c = '_'

def isNamePart (c : Char) : Bool := c.isAlphanum || c = '_'

def isName (s : String) : Bool := s.toList.head?.any isNameStart && s.toList.all isNamePart

/-- Names of one character. -/
def isSpecial (c : Char) : Bool := c.isDigit || ['@', '*', '#', '?', '-', '$', '!'].contains c

/-! ### Reading words -/

inductive Place where
  | bare
  | double
  | braces (quoted : Bool)
  /-- In a document, where only parameters and the output of scripts take their places. -/
  | document
  deriving DecidableEq

def Place.quoted : Place → Bool
  | bare => false
  | double => true
  | braces quoted => quoted
  | document => true

def unterminated : String := "Unterminated quoted string"

/-- The characters up to the parenthesis that closes `depth` open ones, and those after it. -/
def takeNested : (depth : Nat) → (quote : Option Char) → List Char →
    Except String (List Char × List Char)
  | _, none, [] => .error "end of file unexpected (expecting \")\")"
  | _, some _, [] => .error unterminated
  | depth, quote, '\\' :: c :: rest => do
    let (l, after) ← takeNested depth quote rest
    return ('\\' :: c :: l, after)
  | depth, quote, c :: rest => do
    let goOn (depth : Nat) (quote : Option Char) := do
      let (l, after) ← takeNested depth quote rest
      return (c :: l, after)
    match quote with
    | some q => goOn depth (if c = q then none else quote)
    | none =>
      if c = '\x27' || c = '"' then goOn depth (some c)
      else if c = '(' then goOn (depth + 1) none
      else if c ≠ ')' then goOn depth none
      else match depth with
        | 0 => return ([], rest)
        | depth + 1 => goOn depth none

/-- The characters of a calculation up to the two parentheses that end it, and those after them. -/
def takeCalculation : (depth : Nat) → List Char → Except String (List Char × List Char)
  | _, [] => .error "Missing '))'"
  | 0, ')' :: rest => if rest.head? = some ')' then .ok ([], rest.tail) else .error "Missing '))'"
  | depth, c :: rest => do
    let (l, after) ← takeCalculation
      (if c = '(' then depth + 1 else if c = ')' then depth - 1 else depth) rest
    return (c :: l, after)

/-- The characters up to a backtick, where a backslash may protect one, and those after it. -/
def takeTicked (quoted : Bool) : List Char → Except String (List Char × List Char)
  | [] => .error "EOF in backquote substitution"
  | '\x60' :: rest => .ok ([], rest)
  | '\\' :: c :: rest => do
    let (l, after) ← takeTicked quoted rest
    let isProtected := c = '\x60' || c = '\\' || c = '$' || (c = '"' && quoted)
    return (if isProtected then c :: l else '\\' :: c :: l, after)
  | c :: rest => do
    let (l, after) ← takeTicked quoted rest
    return (c :: l, after)

/-- The change that the characters after a parameter's name ask for. -/
def changeOf : List Char → Option (Change × Bool × List Char)
  | ':' :: '-' :: rest => some (.orElse, true, rest)
  | ':' :: '=' :: rest => some (.assign, true, rest)
  | ':' :: '?' :: rest => some (.require, true, rest)
  | ':' :: '+' :: rest => some (.replace, true, rest)
  | '-' :: rest => some (.orElse, false, rest)
  | '=' :: rest => some (.assign, false, rest)
  | '?' :: rest => some (.require, false, rest)
  | '+' :: rest => some (.replace, false, rest)
  | '#' :: '#' :: rest => some (.trim false true, false, rest)
  | '#' :: rest => some (.trim false false, false, rest)
  | '%' :: '%' :: rest => some (.trim true true, false, rest)
  | '%' :: rest => some (.trim true false, false, rest)
  | '\x7d' :: rest => some (.keep, false, '\x7d' :: rest)
  | _ => none

def takeName (l : List Char) : String × List Char :=
  match l with
  | c :: rest =>
    if isNameStart c then (String.ofList (l.takeWhile isNamePart), l.dropWhile isNamePart)
    else if c.isDigit then (String.ofList (l.takeWhile Char.isDigit), l.dropWhile Char.isDigit)
    else if isSpecial c then (String.singleton c, rest)
    else ("", l)
  | [] => ("", [])

/-- A parameter that is none, which shows only when it is used, and what follows its brace. -/
def badParameter (l : List Char) : Part × List Char :=
  (.parameter "" .keep false [] false, (l.dropWhile (· ≠ '\x7d')).drop 1)

mutual

def readParts (place : Place) : (steps : Nat) → List Char → Except String (Word × List Char)
  | 0, _ => .error unterminated
  | _ + 1, [] =>
    match place with
    | .bare | .document => .ok ([], [])
    | .double | .braces true => .error unterminated
    | .braces false => .error "Missing '\x7d'"
  | steps + 1, c :: rest => do
    let goOn (part : Part) (rest : List Char) := do
      let (parts, after) ← readParts place steps rest
      return (part :: parts, after)
    let plain (l : List Char) (rest : List Char) := goOn (.text l place.quoted) rest
    match c, place with
    | '"', .double => return ([], rest)
    | '\x7d', .braces _ => return ([], rest)
    | '\\', _ =>
      match rest with
      | [] => plain ['\\'] []
      | '\n' :: rest => readParts place steps rest
      | d :: rest =>
        let isProtected := ['\\', '$', '\x60'].contains d || (d = '"' && place ≠ .document) ||
          (d = '\x7d' && place matches .braces _)
        if place.quoted && !isProtected then
          plain ['\\', d] rest
        else goOn (.text [d] true) rest
    | '$', _ =>
      let (part, after) ← readDollar place.quoted steps rest
      goOn part after
    | '\x60', _ =>
      let (script, after) ← takeTicked (place = .double) rest
      goOn (.output script place.quoted) after
    | _, _ =>
      if c = '"' && place ≠ .document then
        let (parts, after) ← readParts .double steps rest
        let (more, after) ← readParts place steps after
        return ((.text [] true :: parts) ++ more, after)
      else if c = '\x27' && !place.quoted then
        match rest.dropWhile (· ≠ '\x27') with
        | [] => throw unterminated
        | _ :: after => goOn (.text (rest.takeWhile (· ≠ '\x27')) true) after
      else if place = .bare && endsWord c then return ([], c :: rest)
      else plain [c] rest

def readDollar (quoted : Bool) : (steps : Nat) → List Char → Except String (Part × List Char)
  | 0, _ => .error unterminated
  | steps + 1, l =>
    match l with
    | '(' :: '(' :: rest => do
      let (l, after) ← takeCalculation 0 rest
      let (parts, _) ← readParts .document steps l
      return (.number parts quoted, after)
    | '(' :: rest => do
      let (script, after) ← takeNested 0 none rest
      return (.output script quoted, after)
    | '\x7b' :: '#' :: '\x7d' :: rest => .ok (.parameter "#" .keep false [] quoted, rest)
    | '\x7b' :: '#' :: rest =>
      let (name, after) := takeName rest
      match after with
      | '\x7d' :: after => .ok (.parameter name .length false [] quoted, after)
      | _ => .ok (badParameter after)
    | '\x7b' :: rest => do
      let (name, after) := takeName rest
      match changeOf after with
      | some (change, orEmpty, after) =>
        let isPattern := change matches .trim ..
        let (word, after) ← readParts (.braces (quoted && !isPattern)) steps after
        return (if name.isEmpty then (badParameter []).1 else
          .parameter name change orEmpty word quoted, after)
      | none =>
        if after.contains '\x7d' then return badParameter after
        throw (if quoted then unterminated else "Missing '\x7d'")
    | c :: rest =>
      if isNameStart c then
        .ok (.parameter (takeName l).1 .keep false [] quoted, (takeName l).2)
      else if isSpecial c then .ok (.parameter (String.singleton c) .keep false [] quoted, rest)
      else .ok (.text ['$'] quoted, l)
    | [] => .ok (.text ['$'] quoted, [])

end

/-! ### Reading scripts -/

inductive Direction where
  | read
  | write
  | append
  | copy
  /-- The target is itself what is read. -/
  | document
  deriving DecidableEq

inductive Token where
  | word (w : Word)
  | operator (s : String)
  | redirection (channel : Nat) (d : Direction)
  /-- From here on the script cannot be read. -/
  | fault (message : String)

/-- A token with the number of its line. -/
abbrev Tokens := List (Token × Nat)

def operators : List String := ["&&", "||", ";;", ";", "&", "|", "(", ")", "\n"]

/-- Marks of redirections, longer ones first: the channel if none is given, and the direction. -/
def redirections : List (String × Nat × Direction) := [
  ("<<-", 0, .document), ("<<", 0, .document), (">>", 1, .append), (">&", 1, .copy),
  (">|", 1, .write), ("<&", 0, .copy), ("<>", 0, .read), (">", 1, .write), ("<", 0, .read)]

/-- The redirection that the characters begin with, perhaps after the number of a channel: its mark,
channel and direction, and what follows. -/
def readRedirection? (l : List Char) : Option (String × Nat × Direction × List Char) :=
  let digits := l.takeWhile Char.isDigit
  let rest := l.dropWhile Char.isDigit
  match redirections.find? fun r => r.1.toList.isPrefixOf rest with
  | some (mark, channel, d) =>
    let after := rest.drop mark.length
    match digits with
    | [] => some (mark, channel, d, after)
    | [digit] => some (mark, digit.toNat - '0'.toNat, d, after)
    | _ => none
  | none => none

def lineBreaks (l : List Char) : Nat := l.count '\n'

/-- A document that comes after the line: it ends at a line of its own. -/
structure Pending where
  ending : List Char
  /-- Whether the document is taken as it is. -/
  quoted : Bool
  /-- Whether tabs before its lines are left out. -/
  strips : Bool

def Pending.ofWord (w : Word) (strips : Bool) : Pending :=
  let texts := w.map fun
    | .text l quoted => (l, quoted)
    | _ => ([], false)
  ⟨texts.flatMap (·.1), texts.any (·.2), strips⟩

def Pending.take (p : Pending) : List (List Char) → List Char × List (List Char)
  | [] => ([], [])
  | line :: rest =>
    let line := if p.strips then line.dropWhile (· = '\t') else line
    if line = p.ending then ([], rest)
    else
      let (text, after) := p.take rest
      (line ++ '\n' :: text, after)

def Pending.word (p : Pending) (text : List Char) : Word :=
  if p.quoted then [.text text true]
  else match readParts .document (2 * text.length + 2) text with
    | .ok (w, _) => w
    | .error _ => [.text text true]

def takeDocuments : List Pending → List (List Char) → List Word × List (List Char)
  | [], lines => ([], lines)
  | p :: rest, lines =>
    let (text, lines) := p.take lines
    let (words, lines) := takeDocuments rest lines
    (p.word text :: words, lines)

/-- The tokens of a script, and the documents that follow its first line, where those of `pending`
come first; `steps` bounds the number of tokens. -/
def scan : (steps : Nat) → (line : Nat) → (pending : List Pending) → List Char → Tokens × List Word
  | 0, _, _, _ | _, _, _, [] => ([], [])
  | steps + 1, line, pending, c :: rest =>
    let l := c :: rest
    let add (first : Tokens) (r : Tokens × List Word) : Tokens × List Word := (first ++ r.1, r.2)
    if c = ' ' || c = '\t' then scan steps line pending rest
    else if c = '#' then scan steps line pending (rest.dropWhile (· ≠ '\n'))
    else if c = '\\' && rest.head? = some '\n' then scan steps (line + 1) pending rest.tail
    else if c = '\n' then
      let lines := Text.piecesBy (· = '\n') rest
      let lines := if lines.getLast? = some [] then lines.dropLast else lines
      let (words, others) := if pending.isEmpty then ([], lines) else takeDocuments pending lines
      let after := if pending.isEmpty then rest else ['\n'].intercalate others
      let (more, _) := scan steps (line + 1 + (lines.length - others.length)) [] after
      ((.operator "\n", line) :: more, words)
    else match readRedirection? l with
      | some (mark, channel, .document, after) =>
        match readParts .bare (2 * l.length + 2) (after.dropWhile (· = ' ')) with
        | .error message => ([(.fault message, line)], [])
        | .ok (w, after) =>
          let r := scan steps line (pending ++ [Pending.ofWord w (mark = "<<-")]) after
          let document := r.2[pending.length]?.getD []
          add [(.redirection channel .document, line), (.word document, line)] r
      | some (_, channel, d, after) =>
        add [(.redirection channel d, line)] (scan steps line pending after)
      | none =>
        match operators.find? fun o => o.toList.isPrefixOf l with
        | some o => add [(.operator o, line)] (scan steps line pending (l.drop o.length))
        | none =>
          match readParts .bare (2 * l.length + 2) l with
          | .error message => ([(.fault message, line + lineBreaks l)], [])
          | .ok (w, after) =>
            let broken := lineBreaks (l.take (l.length - after.length))
            add [(.word w, line)] (scan steps (line + broken) pending after)

def tokensOf (line : Nat) (script : List Char) : Tokens :=
  (scan (script.length + 1) line [] script).1

end OrchestrationGraph.Machine.Shell
