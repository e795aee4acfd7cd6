import Mathlib.Data.String.Basic

/-!
# The order of UTF-8 bytes

Texts in ascending order of their characters' code points are in ascending order of their UTF-8
bytes as well (`bytes_lt`, `bytes_le_iff`): the forms of two characters differ first at a byte that is
less in the form of the lesser character (`precedes_encoded`).
-/

namespace OrchestrationGraph.Text

/-- The UTF-8 form of a text. -/
def bytes (s : String) : List UInt8 := s.toUTF8.data.toList

/-- At the first difference the byte of the first is less, and there is one. -/
def Precedes : List UInt8 → List UInt8 → Prop
  | b :: l, b' :: l' => b < b' ∨ b = b' ∧ Precedes l l'
  | _, _ => False

theorem Precedes.append_lt {l l' : List UInt8} (less : Precedes l l') (r r' : List UInt8) :
    l ++ r < l' ++ r' := by
  induction l generalizing l' with
  | nil => exact less.elim
  | cons b l ih =>
    cases l' with
    | nil => exact less.elim
    | cons b' l' =>
      rw [List.cons_append, List.cons_append, List.cons_lt_cons_iff]
      exact less.imp_right fun ⟨same, less⟩ => ⟨same, ih less⟩

theorem bytes_eq (s : String) : bytes s = s.toList.flatMap String.utf8EncodeChar := by
  rw [bytes, String.toUTF8_eq_toByteArray, ← String.utf8Encode_toList, List.utf8Encode,
    List.toList_data_toByteArray]

/-- Four digits, of which the last three are to the base 64, are ordered as the number they make. -/
theorem digits_lt {m n : Nat} (less : m < n) :
    m / 262144 < n / 262144 ∨ m / 262144 = n / 262144 ∧
      (m / 4096 % 64 < n / 4096 % 64 ∨ m / 4096 % 64 = n / 4096 % 64 ∧
        (m / 64 % 64 < n / 64 % 64 ∨ m / 64 % 64 = n / 64 % 64 ∧ m % 64 < n % 64)) := by
  have made : ∀ k : Nat, k = 262144 * (k / 262144) + 4096 * (k / 4096 % 64) + 64 * (k / 64 % 64) +
      k % 64 := by
    intro k
    omega
  have := made m
  have := made n
  have : m / 4096 % 64 < 64 ∧ m / 64 % 64 < 64 ∧ m % 64 < 64 := by omega
  omega

theorem precedes_encoded {c d : Char} (less : c < d) :
    Precedes (String.utf8EncodeChar c) (String.utf8EncodeChar d) := by
  have order : c.val.toNat < d.val.toNat := less
  have bound : d.val.toNat < 1114112 := by
    have := d.valid
    unfold UInt32.isValidChar Nat.isValidChar at this
    omega
  unfold String.utf8EncodeChar
  generalize c.val.toNat = m at *
  generalize d.val.toNat = n at *
  have digits := digits_lt order
  -- No byte of a form overflows: of a valid code point at most three bits go to the longest lead.
  have lead (k : Nat) (valid : k < 1114112) :
      (k / 262144 % 8 + 240) % 2 ^ 8 = k / 262144 + 240 := by omega
  have next (k : Nat) : (k % 64 + 128) % 2 ^ 8 = k % 64 + 128 := by omega
  have lead_m := lead m (Nat.lt_trans order bound)
  have lead_n := lead n bound
  dsimp only
  split_ifs <;>
    simp only [Precedes, UInt8.lt_iff_toNat_lt, ← UInt8.toNat_inj, UInt8.toNat_ofNat', lead_m, lead_n,
      next] <;>
    omega

theorem bytes_lt {s t : String} (less : s < t) : bytes s < bytes t := by
  rw [bytes_eq, bytes_eq]
  rw [String.lt_iff_toList_lt] at less
  generalize s.toList = l at *
  generalize t.toList = l' at *
  induction less with
  | @nil c l =>
    have nonempty : (c :: l).flatMap String.utf8EncodeChar ≠ [] := by simp
    obtain ⟨b, rest, form⟩ := List.exists_cons_of_ne_nil nonempty
    rw [form]
    exact List.nil_lt_cons b rest
  | rel less =>
    rw [List.flatMap_cons, List.flatMap_cons]
    exact (precedes_encoded less).append_lt _ _
  | cons _ ih =>
    rw [List.flatMap_cons, List.flatMap_cons]
    exact List.append_left_lt ih

theorem bytes_le_iff {s t : String} : bytes s ≤ bytes t ↔ s ≤ t := by
  constructor
  · intro le
    exact not_lt.mp fun less => List.not_lt.mpr le (bytes_lt less)
  · intro le
    rcases le.lt_or_eq with less | rfl
    · exact List.le_of_lt (bytes_lt less)
    · exact List.le_refl _

end OrchestrationGraph.Text
