import OrchestrationGraph.Machine.Disk

/-!
# Patterns of a shell

Patterns with `*`, `?` and brackets, as they choose among cases and stand for the names of files. A
quoted character stands for itself.

The shell stands in for external tools in trial runs; nothing here is part of the program.
-/

namespace OrchestrationGraph.Machine.Shell

/-- A character, and whether it is quoted. -/
abbrev Marked := Char × Bool

def plainText (l : List Marked) : String := String.ofList (l.map (·.1))

def isMember (c : Char) : List Char → Bool
  | a :: '-' :: b :: rest => (a ≤ c && c ≤ b) || isMember c rest
  | a :: rest => a = c || isMember c rest
  | [] => false

/-- The members of brackets, whether they are left out, and the pattern after them. -/
def readBrackets? (l : List Marked) : Option (List Char × Bool × List Marked) :=
  let negated := l.head?.any fun c => c = ('!', false) || c = ('^', false)
  let l := if negated then l.tail else l
  let first := l.take 1
  match (l.drop 1).dropWhile (· ≠ (']', false)) with
  | [] => none
  | _ :: after =>
    some ((first ++ (l.drop 1).takeWhile (· ≠ (']', false))).map (·.1), negated, after)

/-- Whether the pattern matches the whole text; `steps` bounds the work. -/
def isMatch : (steps : Nat) → List Marked → List Char → Bool
  | 0, _, _ => false
  | _ + 1, [], text => text.isEmpty
  | steps + 1, ('*', false) :: p, text =>
    isMatch steps p text || (!text.isEmpty && isMatch steps (('*', false) :: p) text.tail)
  | steps + 1, ('?', false) :: p, text => !text.isEmpty && isMatch steps p text.tail
  | steps + 1, ('[', false) :: p, text =>
    match readBrackets? p, text with
    | some (members, negated, after), c :: rest =>
      (isMember c members != negated) && isMatch steps after rest
    | none, c :: rest => c = '[' && isMatch steps p rest
    | _, [] => false
  | steps + 1, (c, _) :: p, text => text.head? = some c && isMatch steps p text.tail

/-- The bytes of a character, each as a character of its own. -/
def bytesAsChars (c : Char) : List Char :=
  (String.singleton c).toUTF8.toList.map fun b => Char.ofNat b.toNat

/-- Whether the pattern matches the whole text, byte by byte. -/
def matchesAll (p : List Marked) (text : List Char) : Bool :=
  let p := p.flatMap fun c => (bytesAsChars c.1).map (·, c.2)
  let text := text.flatMap bytesAsChars
  isMatch (p.length + text.length + 1) p text

/-- Whether a pattern can stand for several texts. -/
def isOpen (p : List Marked) : Bool :=
  p.any fun c => [('*', false), ('?', false), ('[', false)].contains c

/-- Takes off what the pattern matches at one end. -/
def trimMatch (atEnd longest : Bool) (p : List Marked) (text : List Char) : List Char :=
  let cuts := List.range (text.length + 1)
  let cuts := if atEnd = longest then cuts else cuts.reverse
  let cut? := cuts.find? fun i => matchesAll p (if atEnd then text.drop i else text.take i)
  match cut? with
  | none => text
  | some i => if atEnd then text.take i else text.drop i

def splitSlashes : List Marked → List (List Marked)
  | [] => [[]]
  | c :: rest =>
    match splitSlashes rest with
    | [] => [[c]]
    | part :: more => if c.1 = '/' then [] :: part :: more else (c :: part) :: more

/-- The paths that parts of a pattern stand for, below the path `before`. -/
def pathsBelow (d : Disk) (before : String) : List (List Marked) → List String
  | [] => [before]
  | part :: rest =>
    let goOn (name : String) : List String :=
      pathsBelow d (before ++ name ++ if rest.isEmpty then "" else "/") rest
    if !isOpen part then
      let path := before ++ plainText part
      if rest.isEmpty && !part.isEmpty && (d.item? path).isNone then [] else goOn (plainText part)
    else
      let entries := (d.list (if before.isEmpty then "." else before)).toOption.getD []
      (entries.map (·.1)).flatMap fun name =>
        let isHidden := name.startsWith "." && part.head?.map (·.1) ≠ some '.'
        if !isHidden && matchesAll part name.toList then goOn name else []

/-- The paths that a field stands for: itself if there are none. -/
def expandPaths (d : Disk) (field : List Marked) : List String :=
  if isOpen field then
    match pathsBelow d "" (splitSlashes field) with
    | [] => [plainText field]
    | paths => paths
  else [plainText field]

end OrchestrationGraph.Machine.Shell
