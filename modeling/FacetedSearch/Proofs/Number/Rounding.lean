import FacetedSearch.Proofs.Number.Integers

/-!
# `FacetedSearch.Proofs.Number.Rounding`: how far rounding reaches

A fraction is rounded to the nearest number, or to infinity. Its sign is
kept (`isNegative_ofRatio`), and a power of two that the fraction does not
exceed is not exceeded by the number either (`magnitude_ofRatio_le`): a
power of two is a number itself, so there is no way past it.
-/

set_option autoImplicit false

namespace FacetedSearch.Binary64

/-! ### Signs and infinity -/

/-- Past the last word there is only infinity. -/
theorem ofWord_of_le (negative : Bool) {w : Nat} (h : infiniteWord ≤ w) :
    ofWord negative w = ofWord negative infiniteWord := by
  simp only [ofWord, Nat.min_eq_right h, Nat.min_self]

/-- A rounded fraction has the sign that it was given. -/
theorem isNegative_ofRatio (negative : Bool) (a d : Nat) :
    (ofRatio negative a d).isNegative = negative := by
  rw [ofRatio]
  generalize nearestWord (a <<< 1074) d = w
  rcases Nat.lt_or_ge w infiniteWord with hlt | hge
  · exact isNegative_ofWord negative hlt
  · rw [ofWord_of_le negative hge]
    cases negative <;> decide

/-- A fraction that is rounded to no finite number is rounded to infinity. -/
theorem magnitude_ofRatio_of_not_isFinite {negative : Bool} {a d : Nat}
    (h : (ofRatio negative a d).isFinite = false) :
    (ofRatio negative a d).magnitude = 1 <<< 2098 := by
  rw [ofRatio] at h ⊢
  generalize nearestWord (a <<< 1074) d = w at h ⊢
  rcases Nat.lt_or_ge w infiniteWord with hlt | hge
  · -- A word that is small enough is kept, and is that of a finite number.
    rw [isFinite, word_ofWord negative hlt, decide_eq_false_iff_not] at h
    exact absurd hlt h
  · rw [ofWord_of_le negative hge]
    cases negative <;> decide +kernel

theorem magnitude_ofRatio_zero (negative : Bool) (d : Nat) :
    (ofRatio negative 0 d).magnitude = 0 := by
  have hword : nearestWord (0 <<< 1074) d = 0 := by
    simp [nearestWord, roundHalfEven, eq_comm]
  rw [ofRatio, hword]
  cases negative <;> decide +kernel

theorem scaled_nonneg_of_isNegative {x : Binary64} (h : x.isNegative = false) : 0 ≤ x.scaled := by
  simp [scaled, h]

/-- A product has no sign where one factor has none and the other is not negative. -/
theorem scaled_mul_nonneg {x y : Binary64} (hx : 0 ≤ x.scaled) (hy : y.isNegative = false) :
    0 ≤ (mul x y).scaled := by
  cases hneg : x.isNegative with
  | false =>
      refine scaled_nonneg_of_isNegative ?_
      rw [mul, isNegative_ofRatio, hneg, hy]
      rfl
  | true =>
      -- The sign is that of zero, and so is the product.
      have hzero : x.magnitude = 0 := by
        simp [scaled, hneg] at hx
        exact hx
      have hmul : (mul x y).magnitude = 0 := by
        rw [mul, hzero, Nat.zero_mul, magnitude_ofRatio_zero]
      simp [scaled, hmul]

/-! ### Powers of two -/

/-- Rounding does not go past an integer. -/
theorem roundHalfEven_le {a d m : Nat} (hd : 0 < d) (h : a ≤ m * d) : roundHalfEven a d ≤ m := by
  have hdiv : a / d ≤ m := Nat.div_le_of_le_mul (Nat.mul_comm m d ▸ h)
  have hmod := Nat.div_add_mod a d
  rw [roundHalfEven]
  split
  · exact hdiv
  · rename_i hup
    -- What is rounded up has a remainder, so it is below the integer.
    rcases Nat.lt_or_eq_of_le hdiv with hlt | heq
    · exact hlt
    · rw [heq, Nat.mul_comm] at hmod
      omega

/-- The word of a magnitude, in the unit that it is rounded in. -/
theorem nearestWord_le_add {a d m p : Nat} (hd : 0 < d) (hp : (a / d).log2 - 52 = p)
    (h : a ≤ m * 2 ^ p * d) : nearestWord a d ≤ p * binade + m := by
  rw [nearestWord, hp, Nat.shiftLeft_eq]
  refine Nat.add_le_add_left (roundHalfEven_le (Nat.mul_pos hd (Nat.two_pow_pos p)) ?_) _
  rwa [Nat.mul_comm d, ← Nat.mul_assoc]

/-- The word of a magnitude does not go past the word of a power of two. -/
theorem nearestWord_le {a d s : Nat} (hd : 0 < d) (hs : 53 ≤ s) (h : a ≤ 2 ^ s * d) :
    nearestWord a d ≤ (s - 51) * binade := by
  have hquot : a / d ≤ 2 ^ s := Nat.div_le_of_le_mul (Nat.mul_comm (2 ^ s) d ▸ h)
  rcases Nat.lt_or_eq_of_le hquot with hlt | heq
  · -- Below the power of two there is a smaller unit, and 53 bits do not leave it.
    have hlog : (a / d).log2 < s := by
      by_cases hzero : a / d = 0
      · rw [hzero, Nat.log2_zero]
        omega
      · exact (Nat.log2_lt hzero).mpr hlt
    generalize hp : (a / d).log2 - 52 = p
    have hbound : a ≤ 2 ^ 53 * 2 ^ p * d := by
      have hnext : a / d < 2 ^ (53 + p) :=
        Nat.lt_of_lt_of_le Nat.lt_log2_self (Nat.pow_le_pow_right (by decide) (by omega))
      rw [← Nat.pow_add]
      exact Nat.le_of_lt ((Nat.div_lt_iff_lt_mul hd).mp hnext)
    calc nearestWord a d ≤ p * binade + 2 ^ 53 := nearestWord_le_add hd hp hbound
      _ = (p + 2) * binade := (Nat.add_mul p 2 binade).symm
      _ ≤ (s - 51) * binade := Nat.mul_le_mul_right _ (by omega)
  · have hp : (a / d).log2 - 52 = s - 52 := by rw [heq, Nat.log2_two_pow]
    have hbound : a ≤ 2 ^ 52 * 2 ^ (s - 52) * d := by
      rwa [← Nat.pow_add, show 52 + (s - 52) = s by omega]
    calc nearestWord a d ≤ (s - 52) * binade + 2 ^ 52 := nearestWord_le_add hd hp hbound
      _ = (s - 52 + 1) * binade := (Nat.succ_mul (s - 52) binade).symm
      _ = (s - 51) * binade := by rw [show s - 52 + 1 = s - 51 by omega]

/-- A word up to that of a power of two has a magnitude up to it. -/
theorem magnitude_ofWord_le (negative : Bool) {w s : Nat} (hs : 53 ≤ s) (hs' : s < 2098)
    (hw : w ≤ (s - 51) * binade) : (ofWord negative w).magnitude ≤ 2 ^ s := by
  have hfinite : w < infiniteWord := by
    simp only [binade, infiniteWord] at hw ⊢
    omega
  rw [magnitude, significand, unit, word_ofWord negative hfinite, Nat.shiftLeft_eq]
  rcases Nat.lt_or_eq_of_le hw with hlt | heq
  · -- A smaller word has a smaller unit, and at most 53 bits in it.
    have hunit : w / binade - 1 ≤ s - 53 := by
      simp only [binade] at hlt ⊢
      omega
    have hsignificand : w - (w / binade - 1) * binade ≤ 2 ^ 53 := by
      simp only [binade]
      omega
    calc (w - (w / binade - 1) * binade) * 2 ^ (w / binade - 1)
        ≤ 2 ^ 53 * 2 ^ (s - 53) :=
          Nat.mul_le_mul hsignificand (Nat.pow_le_pow_right (by decide) hunit)
      _ = 2 ^ s := by rw [← Nat.pow_add, show 53 + (s - 53) = s by omega]
  · have hunit : w / binade - 1 = s - 52 := by
      rw [heq, Nat.mul_div_cancel _ (by decide)]
      omega
    have hsignificand : w - (s - 52) * binade = 2 ^ 52 := by
      simp only [binade] at heq ⊢
      omega
    rw [hunit, hsignificand, ← Nat.pow_add, show 52 + (s - 52) = s by omega]

/-- Rounding does not go past a power of two. -/
theorem magnitude_ofRatio_le (negative : Bool) {a d s : Nat} (hd : 0 < d) (hs : s < 1024)
    (h : a ≤ 2 ^ s * d) : (ofRatio negative a d).magnitude ≤ 2 ^ (s + 1074) := by
  have hshift : a <<< 1074 ≤ 2 ^ (s + 1074) * d := by
    rw [Nat.shiftLeft_eq, Nat.pow_add, Nat.mul_right_comm]
    exact Nat.mul_le_mul_right _ h
  exact magnitude_ofWord_le negative (by omega) (by omega) (nearestWord_le hd (by omega) hshift)

end FacetedSearch.Binary64
