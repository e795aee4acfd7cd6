import OrchestrationGraph.Json.Token.Text

/-!
# Finding the words of a JSON text
-/

namespace OrchestrationGraph.Json

def readWord (token : Token) : (word l : List Char) → Token × List Char
  | [], l => (token, l)
  | _ :: _, [] => (.broken .endInValue .endInValue, [])
  | w :: word, c :: l =>
    if c = w then readWord token word l else (.broken .expectedWord .expectedWord, [])

def punctuation? (c : Char) : Option Token :=
  if c = ',' then some .comma
  else if c = ':' then some .colon
  else if c = '[' then some .openList
  else if c = ']' then some .closeList
  else if c = '\x7b' then some .openObject
  else if c = '\x7d' then some .closeObject
  else none

def readLetters (c : Char) (rest : List Char) : Token × List Char :=
  if c = 'n' then readWord .null ['u', 'l', 'l'] rest
  else if c = 't' then readWord (.bool true) ['r', 'u', 'e'] rest
  else if c = 'f' then readWord (.bool false) ['a', 'l', 's', 'e'] rest
  else (.broken .expectedValue .expectedValue, [])

def readToken (c : Char) (rest : List Char) : Token × List Char :=
  match punctuation? c with
  | some t => (t, rest)
  | none =>
    if c = '"' then readText rest
    else if c = '-' then readNumber true rest
    else if isDigit c then readNumber false (c :: rest)
    else readLetters c rest

theorem readWord_length (t : Token) (word l : List Char) :
    (readWord t word l).2.length ≤ l.length := by
  fun_induction readWord t word l <;> simp_all
  all_goals omega

theorem readLetters_length (c : Char) (rest : List Char) :
    (readLetters c rest).2.length ≤ rest.length := by
  unfold readLetters
  split
  · exact readWord_length _ _ _
  split
  · exact readWord_length _ _ _
  split
  · exact readWord_length _ _ _
  · exact Nat.zero_le _

theorem readToken_length (c : Char) (rest : List Char) :
    (readToken c rest).2.length ≤ rest.length := by
  unfold readToken
  split
  · exact Nat.le_refl _
  split
  · exact readText_length rest
  split
  · exact Nat.le_trans (readNumber_length true rest) (Nat.sub_le _ _)
  split
  · exact readNumber_length false (c :: rest)
  · exact readLetters_length c rest

def isGap (c : Char) : Bool := c = ' ' || c = '\n' || c = '\t' || c = '\r'

/-- The tokens of a text; what follows something that is no token is not looked at. -/
def tokens : List Char → List Token
  | [] => []
  | c :: rest =>
    if isGap c then tokens rest
    else
      let read := readToken c rest
      read.1 :: tokens read.2
termination_by l => l.length
decreasing_by
  · simp
  · have := readToken_length c rest
    simp only [List.length_cons]; omega

end OrchestrationGraph.Json
