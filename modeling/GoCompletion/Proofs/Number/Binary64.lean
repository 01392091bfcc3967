import GoCompletion.Number.Binary64

/-!
# Integers as binary64 numbers

An integer that is greater than zero is so as a binary64 number as well, however it is rounded
(`Binary64.isPositive_ofInt`): it is scaled by a power of two that leaves something in front of the point.
-/

namespace GoCompletion

/-- Rounding does not go below the next smaller integer. -/
theorem div_le_roundHalfEven (num den : Nat) : num / den ≤ roundHalfEven num den := by
  unfold roundHalfEven
  dsimp only
  split
  · exact Nat.le_succ _
  · exact Nat.le_refl _

namespace Binary64

/-- An integer is not scaled by a greater power of two than there is in it. -/
theorem exponentOf_one_le (n : Nat) : exponentOf n 1 ≤ n.log2 := by
  unfold exponentOf
  dsimp only
  have hone : Nat.log2 1 = 0 := by decide
  have hleast : leastExponent = -1074 := rfl
  rw [hone, hleast]
  split <;> omega

/-- An integer that is scaled has something left in front of the point. -/
theorem one_le_scaled {n : Nat} (hn : n ≠ 0) :
    1 ≤ (scale n 1 (exponentOf n 1)).1 / (scale n 1 (exponentOf n 1)).2 := by
  have he := exponentOf_one_le n
  unfold scale
  split
  · have hpower : 0 < Nat.pow 2 (-exponentOf n 1).toNat := Nat.pow_pos Nat.zero_lt_two
    rw [Nat.div_one]
    exact Nat.mul_pos (Nat.pos_of_ne_zero hn) hpower
  · have hle : (exponentOf n 1).toNat ≤ n.log2 := by omega
    have hpower : Nat.pow 2 (exponentOf n 1).toNat ≤ n :=
      Nat.le_trans (Nat.pow_le_pow_right Nat.zero_lt_two hle) (Nat.log2_self_le hn)
    rw [Nat.one_mul]
    exact (Nat.one_le_div_iff (Nat.pow_pos Nat.zero_lt_two)).mpr hpower

/-- A mantissa that is not zero makes a number that is positive, if nothing is negative. -/
theorem isPositive_of_mantissa {m : Nat} (hm : m ≠ 0) (e : Int) :
    (if m = 0 then finite false 0 0
      else if e > greatestExponent then infinite false else finite false m e).isPositive = true := by
  rw [if_neg hm]
  split
  · rfl
  · simp [isPositive, hm]

/-- **A positive integer is a positive number**, which may be an infinity. -/
theorem isPositive_ofInt {i : Int} (h : 0 < i) : (ofInt i).isPositive = true := by
  have hn : i.natAbs ≠ 0 := by omega
  have hsign : decide (i < 0) = false := decide_eq_false (by omega)
  have hround := Nat.le_trans (one_le_scaled hn) (div_le_roundHalfEven _ _)
  have hcarry : leastMantissa ≠ 0 := by decide
  unfold ofInt ofRatio
  rw [if_neg hn, hsign]
  dsimp only
  split
  · exact isPositive_of_mantissa hcarry _
  · exact isPositive_of_mantissa (Nat.one_le_iff_ne_zero.mp hround) _

end Binary64

end GoCompletion
