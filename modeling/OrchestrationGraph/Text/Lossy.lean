/-!
# Reading bytes as text, whatever they are

UTF-8 in which every longest beginning of a character that is not finished, and every byte that
begins none, reads as one replacement character.
-/

namespace OrchestrationGraph.Text

/-- What a first byte announces: the number of bytes after it, and the bounds of the second. -/
def announced (first : UInt8) : Option (Nat × UInt8 × UInt8) :=
  if first < 0x80 then some (0, 0, 0)
  else if 0xC2 ≤ first && first ≤ 0xDF then some (1, 0x80, 0xBF)
  else if first == 0xE0 then some (2, 0xA0, 0xBF)
  else if first == 0xED then some (2, 0x80, 0x9F)
  else if 0xE1 ≤ first && first ≤ 0xEF then some (2, 0x80, 0xBF)
  else if first == 0xF0 then some (3, 0x90, 0xBF)
  else if 0xF1 ≤ first && first ≤ 0xF3 then some (3, 0x80, 0xBF)
  else if first == 0xF4 then some (3, 0x80, 0x8F)
  else none

/-- The bits of the first byte that belong to the code point of a character of `more + 1` bytes. -/
def leadingBits (first : UInt8) (more : Nat) : Nat :=
  if more = 0 then first.toNat else first.toNat % Nat.pow 2 (6 - more)

/-- Reads up to `more` further bytes, the next one within the bounds; tells the code point if all
were there, and what follows them. -/
def continued : (more : Nat) → (low high : UInt8) → (code : Nat) → List UInt8 →
    Option Nat × List UInt8
  | 0, _, _, code, rest => (some code, rest)
  | _ + 1, _, _, _, [] => (none, [])
  | more + 1, low, high, code, b :: rest =>
    if low ≤ b && b ≤ high then continued more 0x80 0xBF (code * 64 + b.toNat % 64) rest
    else (none, b :: rest)

theorem continued_length (more : Nat) (low high : UInt8) (code : Nat) (l : List UInt8) :
    (continued more low high code l).2.length ≤ l.length := by
  fun_induction continued more low high code l <;> simp_all
  all_goals omega

def decodeLossy (bytes : List UInt8) : List Char :=
  match bytes with
  | [] => []
  | first :: rest =>
    match announced first with
    | none => '\uFFFD' :: decodeLossy rest
    | some (more, low, high) =>
      let read := continued more low high (leadingBits first more) rest
      (read.1.elim '\uFFFD' Char.ofNat) :: decodeLossy read.2
termination_by bytes.length
decreasing_by
  all_goals simp only [List.length_cons]
  · omega
  · have := continued_length more low high (leadingBits first more) rest
    omega

end OrchestrationGraph.Text
