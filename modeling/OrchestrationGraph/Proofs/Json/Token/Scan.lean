import OrchestrationGraph.Json.Token.Scan
import OrchestrationGraph.Proofs.Json.Token.Text
import OrchestrationGraph.Proofs.Json.Value

/-!
# The tokens of a written value

A written value falls into its own tokens (`tokens_render`), in every layout and whatever stands
after it, as long as that does not go on a numeral.
-/

namespace OrchestrationGraph.Json

/-! ### Tokens of values -/

mutual

/-- The tokens that a value is written with. -/
def Value.tokens : Value → List Token
  | .null => [.null]
  | .bool b => [.bool b]
  | .number n => [.number (.ok n)]
  | .text s => [.text (.ok s)]
  | .list [] => [.openList, .closeList]
  | .list (item :: items) => .openList :: (item.tokens ++ (itemTokens items ++ [.closeList]))
  | .object [] => [.openObject, .closeObject]
  | .object ((name, v) :: members) =>
    .openObject :: .text (.ok name) :: .colon :: (v.tokens ++ (memberTokens members ++ [.closeObject]))

/-- Further items, each after a comma. -/
def itemTokens : List Value → List Token
  | [] => []
  | item :: items => .comma :: (item.tokens ++ itemTokens items)

/-- Further members, each after a comma. -/
def memberTokens : List (String × Value) → List Token
  | [] => []
  | (name, v) :: members =>
    .comma :: .text (.ok name) :: .colon :: (v.tokens ++ memberTokens members)

end

variable {c : Char} {l rest : List Char}

/-! ### Single tokens -/

theorem tokens_gap (gap : isGap c = true) (l : List Char) : tokens (c :: l) = tokens l := by
  rw [tokens, if_pos gap]

theorem tokens_token (noGap : isGap c = false) (l : List Char) :
    tokens (c :: l) = (readToken c l).1 :: tokens (readToken c l).2 := by
  rw [tokens, noGap]
  rfl

theorem tokens_punctuation {t : Token} (noGap : isGap c = false) (mark : punctuation? c = some t)
    (l : List Char) : tokens (c :: l) = t :: tokens l := by
  rw [tokens_token noGap, readToken, mark]

@[simp]
theorem tokens_comma (l : List Char) : tokens (',' :: l) = .comma :: tokens l :=
  tokens_punctuation rfl rfl l

@[simp]
theorem tokens_openList (l : List Char) : tokens ('[' :: l) = .openList :: tokens l :=
  tokens_punctuation rfl rfl l

@[simp]
theorem tokens_closeList (l : List Char) : tokens (']' :: l) = .closeList :: tokens l :=
  tokens_punctuation rfl rfl l

@[simp]
theorem tokens_openObject (l : List Char) : tokens ('\x7b' :: l) = .openObject :: tokens l :=
  tokens_punctuation rfl rfl l

@[simp]
theorem tokens_closeObject (l : List Char) : tokens ('\x7d' :: l) = .closeObject :: tokens l :=
  tokens_punctuation rfl rfl l

theorem tokens_blanks (n : Nat) (l : List Char) :
    tokens (List.replicate n ' ' ++ l) = tokens l := by
  induction n with
  | zero => rfl
  | succ n ih => rw [List.replicate_succ, List.cons_append, tokens_gap rfl, ih]

@[simp]
theorem tokens_newLine (layout : Layout) (l : List Char) :
    tokens (layout.newLine ++ l) = tokens l := by
  cases layout with
  | compact => rfl
  | indented level =>
    rw [Layout.newLine, List.cons_append, tokens_gap rfl]
    exact tokens_blanks _ l

@[simp]
theorem tokens_colon (layout : Layout) (l : List Char) :
    tokens (layout.colon ++ l) = .colon :: tokens l := by
  cases layout with
  | compact => exact tokens_punctuation rfl rfl l
  | indented level =>
    show tokens (':' :: ' ' :: l) = .colon :: tokens l
    rw [tokens_punctuation rfl rfl, tokens_gap rfl]

@[simp]
theorem tokens_renderText (s : String) (l : List Char) :
    tokens (renderText s ++ l) = .text (.ok s) :: tokens l := by
  have read : readToken '"' (s.toList.flatMap escapedChar ++ '"' :: l) = (.text (.ok s), l) :=
    readText_escaped s l
  rw [renderText, List.cons_append, List.cons_append, List.append_assoc]
  show tokens ('"' :: (s.toList.flatMap escapedChar ++ '"' :: l)) = _
  rw [tokens_token rfl, read]

/-! ### Numbers -/

theorem ne_of_isDigit {d : Char} (digit : isDigit c = true) (other : isDigit d = false) : c ≠ d := by
  rintro rfl
  rw [digit] at other
  exact absurd other (by decide)

theorem isGap_of_isDigit (digit : isDigit c = true) : isGap c = false := by
  have blank : c ≠ ' ' := ne_of_isDigit digit rfl
  have lineFeed : c ≠ '\n' := ne_of_isDigit digit rfl
  have tab : c ≠ '\t' := ne_of_isDigit digit rfl
  have carriageReturn : c ≠ '\r' := ne_of_isDigit digit rfl
  simp [isGap, blank, lineFeed, tab, carriageReturn]

theorem readToken_of_isDigit (digit : isDigit c = true) (l : List Char) :
    readToken c l = readNumber false (c :: l) := by
  have comma : c ≠ ',' := ne_of_isDigit digit rfl
  have colon : c ≠ ':' := ne_of_isDigit digit rfl
  have openList : c ≠ '[' := ne_of_isDigit digit rfl
  have closeList : c ≠ ']' := ne_of_isDigit digit rfl
  have openObject : c ≠ '\x7b' := ne_of_isDigit digit rfl
  have closeObject : c ≠ '\x7d' := ne_of_isDigit digit rfl
  have noMark : punctuation? c = none := by
    simp [punctuation?, comma, colon, openList, closeList, openObject, closeObject]
  have quote : c ≠ '"' := ne_of_isDigit digit rfl
  have minus : c ≠ '-' := ne_of_isDigit digit rfl
  simp [readToken, noMark, quote, minus, digit]

theorem tokens_integer {n : Int} (within : Number.InBounds n) (ends : EndsNumeral l) :
    tokens ((Number.integer n).render ++ l) = .number (.ok (.integer n)) :: tokens l := by
  cases n with
  | ofNat n =>
    obtain ⟨c, digits, written⟩ := List.exists_cons_of_ne_nil (Nat.toDigits_ne_nil (n := n) (b := 10))
    have digit : isDigit c = true := by
      apply isDigit_of_mem_toDigits (n := n)
      rw [written]
      exact List.mem_cons_self
    have read : readToken c (digits ++ l) = (.number (.ok (.integer (.ofNat n))), l) := by
      rw [readToken_of_isDigit digit, ← List.cons_append, ← written]
      exact readNumber_toDigits false within (by simp) ends
    rw [Number.render, written, List.cons_append, tokens_token (isGap_of_isDigit digit), read]
  | negSucc n =>
    have read : readToken '-' (Nat.toDigits 10 (n + 1) ++ l) =
        (.number (.ok (.integer (.negSucc n))), l) :=
      readNumber_toDigits true within (by intro; omega) ends
    show tokens ('-' :: (Nat.toDigits 10 (n + 1) ++ l)) = _
    rw [tokens_token rfl, read]

/-! ### What may follow a numeral -/

theorem endsNumeral_cons (noDigit : isDigit c = false) (noPoint : c ≠ '.') (noLower : c ≠ 'e')
    (noUpper : c ≠ 'E') (l : List Char) : EndsNumeral (c :: l) := by
  rintro d ⟨⟩
  exact ⟨noDigit, noPoint, noLower, noUpper⟩

theorem endsNumeral_nil : EndsNumeral [] := by
  rintro c ⟨⟩

theorem endsNumeral_newLine (layout : Layout) (ends : EndsNumeral l) :
    EndsNumeral (layout.newLine ++ l) := by
  cases layout with
  | compact => exact ends
  | indented level => exact endsNumeral_cons rfl (by decide) (by decide) (by decide) _

theorem endsNumeral_renderItems (layout : Layout) (items : List Value) (ends : EndsNumeral l) :
    EndsNumeral (renderItems layout items ++ l) := by
  cases items with
  | nil => exact ends
  | cons item items =>
    rw [renderItems]
    exact endsNumeral_cons rfl (by decide) (by decide) (by decide) _

theorem endsNumeral_renderMembers (layout : Layout) (members : List (String × Value))
    (ends : EndsNumeral l) : EndsNumeral (renderMembers layout members ++ l) := by
  cases members with
  | nil => exact ends
  | cons member members =>
    rw [renderMembers]
    exact endsNumeral_cons rfl (by decide) (by decide) (by decide) _

/-! ### Values -/

/-- A value falls into its tokens in every layout. -/
def Scans (v : Value) : Prop :=
  ∀ layout rest, EndsNumeral rest → tokens (v.render layout ++ rest) = v.tokens ++ tokens rest

variable {items : List Value} {members : List (String × Value)}

theorem tokens_renderItems (layout : Layout) (scans : ∀ v ∈ items, Scans v) (ends : EndsNumeral rest) :
    tokens (renderItems layout items ++ rest) = itemTokens items ++ tokens rest := by
  induction items with
  | nil => rfl
  | cons item items ih =>
    have later := endsNumeral_renderItems layout items ends
    have ih := ih fun v here => scans v (List.mem_cons_of_mem _ here)
    rw [renderItems, itemTokens]
    simp only [List.cons_append, List.append_assoc, tokens_comma, tokens_newLine]
    rw [scans item List.mem_cons_self layout _ later, ih]

theorem tokens_renderMembers (layout : Layout) (scans : ∀ m ∈ members, Scans m.2)
    (ends : EndsNumeral rest) :
    tokens (renderMembers layout members ++ rest) = memberTokens members ++ tokens rest := by
  induction members with
  | nil => rfl
  | cons member members ih =>
    obtain ⟨name, v⟩ := member
    have later := endsNumeral_renderMembers layout members ends
    have ih := ih fun m here => scans m (List.mem_cons_of_mem _ here)
    rw [renderMembers, memberTokens]
    simp only [List.cons_append, List.append_assoc, tokens_comma, tokens_newLine,
      tokens_renderText, tokens_colon]
    rw [scans (name, v) List.mem_cons_self layout _ later, ih]

theorem scans_list (scans : ∀ v ∈ items, Scans v) : Scans (.list items) := by
  intro layout rest _
  cases items with
  | nil => simp [Value.render, Value.tokens]
  | cons item items =>
    have close : EndsNumeral (layout.newLine ++ (']' :: rest)) :=
      endsNumeral_newLine layout (endsNumeral_cons rfl (by decide) (by decide) (by decide) _)
    have later := endsNumeral_renderItems layout.deeper items close
    have further := tokens_renderItems layout.deeper
      (fun v here => scans v (List.mem_cons_of_mem _ here)) close
    rw [Value.render, Value.tokens]
    simp only [List.cons_append, List.append_assoc, List.nil_append, tokens_openList, tokens_newLine]
    rw [scans item List.mem_cons_self layout.deeper _ later, further, tokens_newLine,
      tokens_closeList]

theorem scans_object (scans : ∀ m ∈ members, Scans m.2) : Scans (.object members) := by
  intro layout rest _
  cases members with
  | nil => simp [Value.render, Value.tokens]
  | cons member members =>
    obtain ⟨name, v⟩ := member
    have close : EndsNumeral (layout.newLine ++ ('\x7d' :: rest)) :=
      endsNumeral_newLine layout (endsNumeral_cons rfl (by decide) (by decide) (by decide) _)
    have later := endsNumeral_renderMembers layout.deeper members close
    have further := tokens_renderMembers layout.deeper
      (fun m here => scans m (List.mem_cons_of_mem _ here)) close
    rw [Value.render, Value.tokens]
    simp only [List.cons_append, List.append_assoc, List.nil_append, tokens_openObject,
      tokens_newLine, tokens_renderText, tokens_colon]
    rw [scans (name, v) List.mem_cons_self layout.deeper _ later, further, tokens_newLine,
      tokens_closeObject]

theorem tokens_null (l : List Char) : tokens ('n' :: 'u' :: 'l' :: 'l' :: l) = .null :: tokens l := by
  rw [tokens_token rfl]
  rfl

theorem tokens_true (l : List Char) :
    tokens ('t' :: 'r' :: 'u' :: 'e' :: l) = .bool true :: tokens l := by
  rw [tokens_token rfl]
  rfl

theorem tokens_false (l : List Char) :
    tokens ('f' :: 'a' :: 'l' :: 's' :: 'e' :: l) = .bool false :: tokens l := by
  rw [tokens_token rfl]
  rfl

/-- A number whose form is its own token, if nothing stands after it that could go on a numeral. -/
def Number.Spelled (n : Number) : Prop :=
  ∀ rest, EndsNumeral rest → tokens (n.render ++ rest) = .number (.ok n) :: tokens rest

theorem scans_of_numbers {v : Value} (spelled : ∀ n ∈ v.numbers, n.Spelled) : Scans v := by
  induction v with
  | null => exact fun _ rest _ => tokens_null rest
  | bool b =>
    cases b with
    | true => exact fun _ rest _ => tokens_true rest
    | false => exact fun _ rest _ => tokens_false rest
  | number n => exact fun _ rest ends => spelled n List.mem_cons_self rest ends
  | text s => exact fun _ rest _ => tokens_renderText s rest
  | list items ih =>
    exact scans_list fun v here =>
      ih v here fun n inside => spelled n (Value.mem_itemNumbers.mpr ⟨v, here, inside⟩)
  | object members ih =>
    exact scans_object fun m here =>
      ih m here fun n inside => spelled n (Value.mem_memberNumbers.mpr ⟨m, here, inside⟩)

theorem tokens_render {v : Value} (spelled : ∀ n ∈ v.numbers, n.Spelled)
    (layout : Layout) : tokens (v.render layout) = v.tokens := by
  have scanned := scans_of_numbers spelled layout [] endsNumeral_nil
  rw [List.append_nil, tokens, List.append_nil] at scanned
  exact scanned

theorem Number.spelled_minusZero : minusZero.Spelled := by
  intro rest ends
  have read : readToken '-' ('0' :: '.' :: '0' :: rest) = (.number (.ok minusZero), rest) :=
    readNumber_minusZero ends
  show tokens ('-' :: '0' :: '.' :: '0' :: rest) = _
  rw [tokens_token rfl, read]

/-- An integer within the bounds, or negative zero. -/
def Number.Integral (n : Number) : Prop := (∃ k, n = .integer k ∧ InBounds k) ∨ n = minusZero

theorem Number.Integral.spelled {n : Number} (integral : n.Integral) : n.Spelled := by
  obtain ⟨k, rfl, within⟩ | rfl := integral
  · exact fun _ ends => tokens_integer within ends
  · exact spelled_minusZero

theorem Value.Whole.spelled {v : Value} (whole : v.Whole) : ∀ n ∈ v.numbers, n.Spelled := by
  intro n here
  have integral : n.Integral := .inl (whole.numbers n here)
  exact integral.spelled

end OrchestrationGraph.Json
