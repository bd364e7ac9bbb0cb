import FacetedSearch.Number.Binary64
import Mathlib.Algebra.Order.Ring.Int

/-!
# `FacetedSearch.Proofs.Number.Integers`: integers that are numbers

A magnitude that has a significand of 53 bits rounds to itself:
`nearestWord_of_significand` gives its word, and `magnitude_ofWord` reads
such a word back. An integer of at most 53 bits is one of
these (`exists_significand`), and so is `2⁵³`. Up to there an integer and
the binary64 number nearest to it are the same value (`ofInt_eq_ofWord`).
-/

set_option autoImplicit false

namespace FacetedSearch.Binary64

/-- The magnitude `m · 2ᵖ`, counted in `2⁻¹⁰⁷⁴`, has the significand `m`
in the unit `2ᵖ` of a finite number. -/
structure IsSignificand (m p : Nat) : Prop where
  lt : m < 2 ^ 53
  /-- Only the numbers with the smallest unit have fewer bits. -/
  le : p = 0 ∨ 2 ^ 52 ≤ m
  unit_le : p ≤ 2045

variable {m p : Nat}

/-! ### Rounding -/

theorem roundHalfEven_mul_right (m : Nat) {d : Nat} (hd : 0 < d) : roundHalfEven (m * d) d = m := by
  have hdiv : m * d / d = m := Nat.mul_div_cancel m hd
  have hmod : m * d % d = 0 := Nat.mul_mod_left m d
  rw [roundHalfEven, hdiv, hmod]
  exact if_pos (.inl (by omega))

/-- The unit in which a magnitude is rounded is the one it has a
significand in. -/
theorem IsSignificand.log2_sub (h : IsSignificand m p) : (m <<< p).log2 - 52 = p := by
  rw [Nat.shiftLeft_eq]
  obtain rfl | hm := h.le
  · have hlog : m.log2 < 53 := by
      by_cases hm : m = 0
      · rw [hm]
        decide
      · exact (Nat.log2_lt hm).mpr h.lt
    rw [Nat.pow_zero, Nat.mul_one]
    omega
  · have hlog : (m * 2 ^ p).log2 = 52 + p := by
      have hpos : 0 < 2 ^ p := Nat.two_pow_pos p
      have hne : m * 2 ^ p ≠ 0 := Nat.mul_ne_zero (by omega) (by omega)
      rw [Nat.log2_eq_iff hne, Nat.add_right_comm, Nat.pow_add, Nat.pow_add]
      exact ⟨Nat.mul_le_mul_right _ hm, Nat.mul_lt_mul_of_pos_right h.lt hpos⟩
    omega

/-- A magnitude with a significand is rounded to itself. -/
theorem nearestWord_of_significand (h : IsSignificand m p) :
    nearestWord (m <<< p) 1 = p * binade + m := by
  rw [nearestWord, Nat.div_one, h.log2_sub, Nat.shiftLeft_eq, Nat.one_shiftLeft,
    roundHalfEven_mul_right m (Nat.two_pow_pos p)]

/-! ### Reading back -/

/-- The word of a magnitude is that of a finite number. -/
theorem IsSignificand.word_lt (h : IsSignificand m p) : p * binade + m < infiniteWord := by
  have := h.lt
  have := h.unit_le
  simp only [binade, infiniteWord]
  omega

theorem word_ofWord {w : Nat} (negative : Bool) (hw : w < infiniteWord) :
    (ofWord negative w).word = w := by
  simp only [infiniteWord] at hw
  simp only [word, ofWord, infiniteWord, signBit, UInt64.toNat_ofNat']
  cases negative <;> simp <;> omega

theorem isNegative_ofWord {w : Nat} (negative : Bool) (hw : w < infiniteWord) :
    (ofWord negative w).isNegative = negative := by
  simp only [infiniteWord] at hw
  simp only [isNegative, ofWord, infiniteWord, signBit, UInt64.toNat_ofNat']
  cases negative <;> simp <;> omega

theorem isNaN_ofWord {w : Nat} (negative : Bool) (hw : w < infiniteWord) :
    (ofWord negative w).isNaN = false := by
  rw [isNaN, word_ofWord negative hw, decide_eq_false_iff_not]
  omega

/-- The magnitude of a word with a significand is the one it was made for. -/
theorem magnitude_ofWord (negative : Bool) (h : IsSignificand m p) :
    (ofWord negative (p * binade + m)).magnitude = m <<< p := by
  -- The first of 53 bits makes a word one binade larger than its unit says; a
  -- magnitude with fewer bits has the smallest unit, and there is nothing to take off.
  have hunit : (ofWord negative (p * binade + m)).unit = p := by
    have := h.lt
    have := h.le
    rw [unit, word_ofWord negative h.word_lt]
    simp only [binade]
    omega
  rw [magnitude, significand, hunit, word_ofWord negative h.word_lt, Nat.add_sub_cancel_left]

/-! ### Integers -/

/-- Up to `2⁵³` a whole multiple of `2ˢ` has a significand. -/
theorem exists_significand {n s : Nat} (hn : n ≤ 2 ^ 53) (hlow : 52 ≤ s) (hhigh : s < 2045) :
    ∃ m p, IsSignificand m p ∧ m <<< p = n <<< s := by
  simp only [Nat.shiftLeft_eq]
  obtain rfl | hpos := Nat.eq_zero_or_pos n
  · exact ⟨0, 0, ⟨by decide, .inl rfl, by decide⟩, by rw [Nat.zero_mul, Nat.zero_mul]⟩
  obtain rfl | hlt := Nat.eq_or_lt_of_le hn
  · -- The bound itself has one bit too many, all of them zero but the first.
    refine ⟨2 ^ 52, s + 1, ⟨by decide, .inr (Nat.le_refl _), by omega⟩, ?_⟩
    rw [Nat.pow_succ 2 s, ← Nat.mul_assoc, Nat.mul_right_comm, ← Nat.pow_succ]
  -- Any other integer is shifted until it has all of its 53 bits.
  have hlog : n.log2 < 53 := (Nat.log2_lt (by omega)).mpr hlt
  have hself : 2 ^ n.log2 ≤ n := Nat.log2_self_le (by omega)
  have hnext : n < 2 ^ (n.log2 + 1) := Nat.lt_log2_self
  refine ⟨n * 2 ^ (52 - n.log2), s - (52 - n.log2), ⟨?_, .inr ?_, by omega⟩, ?_⟩
  · calc n * 2 ^ (52 - n.log2)
        < 2 ^ (n.log2 + 1) * 2 ^ (52 - n.log2) :=
          Nat.mul_lt_mul_of_pos_right hnext (Nat.two_pow_pos _)
      _ = 2 ^ 53 := by rw [← Nat.pow_add]; congr 1; omega
  · calc 2 ^ 52
        = 2 ^ n.log2 * 2 ^ (52 - n.log2) := by rw [← Nat.pow_add]; congr 1; omega
      _ ≤ n * 2 ^ (52 - n.log2) := Nat.mul_le_mul_right _ hself
  · rw [Nat.mul_assoc, ← Nat.pow_add]
    congr 2
    omega

/-- What the number nearest to an integer of at most `2⁵³` is. -/
theorem ofInt_eq_ofWord {n : Int} (hn : n.natAbs ≤ 2 ^ 53) :
    ∃ m p, IsSignificand m p ∧ m <<< p = n.natAbs <<< 1074 ∧
      ofInt n = ofWord (n < 0) (p * binade + m) := by
  obtain ⟨m, p, h, heq⟩ := exists_significand hn (s := 1074) (by decide) (by decide)
  refine ⟨m, p, h, heq, ?_⟩
  rw [ofInt, ofRatio, ← heq, nearestWord_of_significand h]

end FacetedSearch.Binary64
