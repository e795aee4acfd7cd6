/-!
# White space

The characters of Unicode's White_Space property, trimming, and cutting text at a separator.
-/

namespace OrchestrationGraph.Text

/-- Unicode's White_Space property. -/
def isBlank (c : Char) : Bool :=
  let n := c.toNat
  (9 ≤ n && n ≤ 13) || n == 0x20 || n == 0x85 || n == 0xA0 || n == 0x1680 ||
  (0x2000 ≤ n && n ≤ 0x200A) || n == 0x2028 || n == 0x2029 || n == 0x202F || n == 0x205F ||
  n == 0x3000

def trimBy (p : Char → Bool) (l : List Char) : List Char :=
  ((l.dropWhile p).reverse.dropWhile p).reverse

def trimEndBy (p : Char → Bool) (l : List Char) : List Char := (l.reverse.dropWhile p).reverse

def trim (s : String) : String := String.ofList (trimBy isBlank s.toList)

/-- The pieces of `l` between the characters of the class `p`; there is always at least one. -/
def piecesBy (p : Char → Bool) : List Char → List (List Char)
  | [] => [[]]
  | c :: rest =>
    if p c then [] :: piecesBy p rest
    else match piecesBy p rest with
      | [] => [[c]]
      | piece :: more => (c :: piece) :: more

theorem piecesBy_ne_nil (p : Char → Bool) (l : List Char) : piecesBy p l ≠ [] := by
  cases l with
  | nil => simp [piecesBy]
  | cons c rest =>
    unfold piecesBy
    split
    · simp
    · split <;> simp

end OrchestrationGraph.Text
