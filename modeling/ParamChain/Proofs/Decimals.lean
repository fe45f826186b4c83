import ParamChain.Text.Digits

/-
This file says how a whole number is spelled: a minus where it is negative, then decimal digits that
spell its size, the first of which is a zero only for the number zero. Readers of numbers rest on
these facts whatever else they accept.
-/

namespace ParamChain.Text

/-- The number spelled by decimal digits that follow others which spell `n`. -/
def natOnDigits (n : Nat) (digits : List Char) : Nat :=
  digits.foldl (fun n c => n * 10 + (c.toNat - 48)) n

theorem le_natOnDigits (n : Nat) (digits : List Char) : n ≤ natOnDigits n digits := by
  induction digits generalizing n with
  | nil => exact Nat.le_refl n
  | cons c rest inductionHypothesis =>
    have further := inductionHypothesis (n * 10 + (c.toNat - 48))
    rw [natOnDigits, List.foldl_cons, ← natOnDigits]
    omega

theorem natOfDigits_toDigits (n : Nat) : natOfDigits (Nat.toDigits 10 n) = n := by
  have spelled := Nat.ofDigitChars_ten_toDigits (n := n)
  rw [Nat.ofDigitChars_eq_foldl] at spelled
  simp only [Nat.mul_comm 10] at spelled
  exact spelled

theorem isDigit_of_mem_toDigits {n : Nat} {c : Char} (member : c ∈ Nat.toDigits 10 n) :
    c.isDigit :=
  Nat.isDigit_of_mem_toDigits (by decide) (by decide) member

/-- A number other than zero is spelled without a leading zero. -/
theorem head?_toDigits {n : Nat} (positive : 0 < n) : (Nat.toDigits 10 n).head? ≠ some '0' := by
  induction n using Nat.strongRecOn with
  | ind n inductionHypothesis =>
    by_cases small : n < 10
    · rw [Nat.toDigits_of_lt_base small]
      have digits : ∀ d < 10, 0 < d → Nat.digitChar d ≠ '0' := by decide
      simpa using digits n small positive
    · have leading := inductionHypothesis (n / 10) (by omega) (by omega)
      have some : ∃ c, (Nat.toDigits 10 (n / 10)).head? = some c :=
        Option.ne_none_iff_exists'.1 (mt List.head?_eq_none_iff.1 Nat.toDigits_ne_nil)
      obtain ⟨c, first⟩ := some
      rw [Nat.toDigits_of_base_le (by decide) (by omega), List.head?_append, first]
      rwa [first] at leading

theorem toList_toString_int (n : Int) :
    (toString n).toList = (if n < 0 then ['-'] else []) ++ Nat.toDigits 10 n.natAbs := by
  cases n with
  | ofNat n =>
    have nonneg : ¬Int.ofNat n < 0 := Int.not_lt.2 (Int.natCast_nonneg n)
    rw [if_neg nonneg]
    exact Nat.toList_repr
  | negSucc n =>
    rw [if_pos (Int.negSucc_lt_zero n)]
    exact (String.toList_append).trans (congrArg _ Nat.toList_repr)

end ParamChain.Text
