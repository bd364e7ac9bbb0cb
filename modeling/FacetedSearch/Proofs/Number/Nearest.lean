import FacetedSearch.Proofs.Number.Rounding
import Mathlib

/-!
# `FacetedSearch.Proofs.Number.Nearest`: the number nearest to an integer

An integer of more than 53 bits is rounded to 53 of them. What comes out is
an integer again (`nearestInteger`), and it is the value of the binary64
number nearest to the integer (`scaled_ofInt`). So integers compare as
the integers do that they are rounded to (`compare?_ofInt_nearest`).

Rounding keeps the order (`nearestInteger_mono`), and up to `2⁵³` there is
nothing to round (`nearestInteger_eq_self`). All that can go wrong is that
two integers are rounded to one.
-/

set_option autoImplicit false

namespace FacetedSearch.Binary64

/-! ### Rounding a fraction -/

/-- Rounding does not go below an integer. -/
theorem le_roundHalfEven {a d m : Nat} (hd : 0 < d) (h : m * d ≤ a) : m ≤ roundHalfEven a d := by
  have hdiv : m ≤ a / d := (Nat.le_div_iff_mul_le hd).mpr h
  rw [roundHalfEven]
  split
  · exact hdiv
  · omega

/-- A larger fraction is not rounded to less. -/
theorem roundHalfEven_mono {a b d : Nat} (h : a ≤ b) : roundHalfEven a d ≤ roundHalfEven b d := by
  have hdiv : a / d ≤ b / d := Nat.div_le_div_right h
  have ha := Nat.div_add_mod a d
  have hb := Nat.div_add_mod b d
  rw [roundHalfEven, roundHalfEven]
  rcases Nat.lt_or_eq_of_le hdiv with hlt | heq
  · split <;> split <;> omega
  · -- With one quotient, what counts is the remainder.
    have hmod : a % d ≤ b % d := by
      rw [heq] at ha
      omega
    rw [heq]
    split <;> split <;> omega

/-- A fraction is rounded as its value says. -/
theorem roundHalfEven_mul_mul (a d : Nat) {c : Nat} (hc : 0 < c) :
    roundHalfEven (a * c) (d * c) = roundHalfEven a d := by
  have hdiv : a * c / (d * c) = a / d := Nat.mul_div_mul_right a d hc
  have hmod : a * c % (d * c) = a % d * c := Nat.mul_mod_mul_right c a d
  have hlt : 2 * (a % d * c) < d * c ↔ 2 * (a % d) < d := by
    rw [← Nat.mul_assoc]
    exact Nat.mul_lt_mul_right hc
  have heq : 2 * (a % d * c) = d * c ↔ 2 * (a % d) = d := by
    rw [← Nat.mul_assoc]
    exact Nat.mul_right_cancel_iff hc
  simp only [roundHalfEven, hdiv, hmod, hlt, heq]

/-! ### Rounding a magnitude -/

/-- The natural number with at most 53 significant bits that is nearest to a
natural number, a tie going to the even one. -/
def nearestNat (a : Nat) : Nat :=
  roundHalfEven a (2 ^ (a.log2 - 52)) * 2 ^ (a.log2 - 52)

theorem nearestNat_eq_self {a : Nat} (h : a ≤ 2 ^ 53) : nearestNat a = a := by
  rw [nearestNat]
  rcases Nat.lt_or_eq_of_le h with hlt | rfl
  · have hlog : a.log2 - 52 = 0 := by
      by_cases ha : a = 0
      · rw [ha, Nat.log2_zero]
      · have := (Nat.log2_lt ha).mpr hlt
        omega
    rw [hlog]
    have hone := roundHalfEven_mul_right a Nat.one_pos
    rw [Nat.mul_one] at hone
    rw [Nat.pow_zero, hone, Nat.mul_one]
  · decide

/-- The magnitude in the unit that it is rounded in has 53 bits, or one more if
it is rounded up to a power of two. -/
theorem significand_bounds {a : Nat} (h : 2 ^ 52 ≤ a) :
    2 ^ 52 ≤ roundHalfEven a (2 ^ (a.log2 - 52)) ∧
      roundHalfEven a (2 ^ (a.log2 - 52)) ≤ 2 ^ 53 := by
  have hpos : a ≠ 0 := by omega
  have hlog : 52 ≤ a.log2 := (Nat.le_log2 hpos).mpr h
  refine ⟨le_roundHalfEven (Nat.two_pow_pos _) ?_, roundHalfEven_le (Nat.two_pow_pos _) ?_⟩
  · rw [← Nat.pow_add, show 52 + (a.log2 - 52) = a.log2 by omega]
    exact Nat.log2_self_le hpos
  · rw [← Nat.pow_add, show 53 + (a.log2 - 52) = a.log2 + 1 by omega]
    exact Nat.le_of_lt Nat.lt_log2_self

/-- Rounding stays between powers of two. -/
theorem nearestNat_bounds {a : Nat} (h : a ≠ 0) :
    2 ^ a.log2 ≤ nearestNat a ∧ nearestNat a ≤ 2 ^ (a.log2 + 1) := by
  rcases Nat.lt_or_ge a (2 ^ 52) with hlt | hge
  · rw [nearestNat_eq_self (by omega)]
    exact ⟨Nat.log2_self_le h, Nat.le_of_lt Nat.lt_log2_self⟩
  · have hlog : 52 ≤ a.log2 := (Nat.le_log2 h).mpr hge
    obtain ⟨hlow, hhigh⟩ := significand_bounds hge
    rw [nearestNat]
    constructor
    · calc 2 ^ a.log2 = 2 ^ 52 * 2 ^ (a.log2 - 52) := by rw [← Nat.pow_add]; congr 1; omega
        _ ≤ _ := Nat.mul_le_mul_right _ hlow
    · calc _ ≤ 2 ^ 53 * 2 ^ (a.log2 - 52) := Nat.mul_le_mul_right _ hhigh
        _ = 2 ^ (a.log2 + 1) := by rw [← Nat.pow_add]; congr 1; omega

/-- Rounding keeps the order of magnitudes. -/
theorem nearestNat_mono {a b : Nat} (h : a ≤ b) : nearestNat a ≤ nearestNat b := by
  by_cases ha : a = 0
  · rw [ha]
    exact Nat.zero_le _
  have hb : b ≠ 0 := by omega
  have hlog : a.log2 ≤ b.log2 := (Nat.le_log2 hb).mpr (Nat.le_trans (Nat.log2_self_le ha) h)
  rcases Nat.lt_or_eq_of_le hlog with hlt | heq
  · -- There is a power of two between the two.
    calc nearestNat a ≤ 2 ^ (a.log2 + 1) := (nearestNat_bounds ha).2
      _ ≤ 2 ^ b.log2 := Nat.pow_le_pow_right (by decide) hlt
      _ ≤ nearestNat b := (nearestNat_bounds hb).1
  · rw [nearestNat, nearestNat, heq]
    exact Nat.mul_le_mul_right _ (roundHalfEven_mono h)

/-! ### Rounding an integer -/

/-- The integer with at most 53 significant bits that is nearest to an integer,
a tie going to the even one. -/
def nearestInteger (n : Int) : Int :=
  if n < 0 then -(nearestNat n.natAbs : Int) else nearestNat n.natAbs

theorem nearestInteger_eq_self {n : Int} (h : n.natAbs ≤ 2 ^ 53) : nearestInteger n = n := by
  rw [nearestInteger, nearestNat_eq_self h]
  omega

/-- Rounding keeps the order of integers. -/
theorem nearestInteger_mono : Monotone nearestInteger := by
  intro n n' h
  rw [nearestInteger, nearestInteger]
  split
  · split
    · -- Below zero the larger integer has the smaller magnitude.
      have hmono := nearestNat_mono (show n'.natAbs ≤ n.natAbs by omega)
      omega
    · omega
  · have hmono := nearestNat_mono (show n.natAbs ≤ n'.natAbs by omega)
    rw [if_neg (by omega)]
    omega

/-! ### The number nearest to an integer -/

theorem nearestWord_shiftLeft {a : Nat} (ha : 2 ^ 52 ≤ a) (s : Nat) :
    nearestWord (a <<< s) 1 =
      (a.log2 - 52 + s) * binade + roundHalfEven a (2 ^ (a.log2 - 52)) := by
  have hpos : a ≠ 0 := by omega
  have hlog : 52 ≤ a.log2 := (Nat.le_log2 hpos).mpr ha
  have hshift : (a <<< s).log2 = a.log2 + s := by
    have htwo : 0 < 2 ^ s := Nat.two_pow_pos s
    rw [Nat.shiftLeft_eq, Nat.log2_eq_iff (Nat.mul_ne_zero hpos (by omega)), Nat.add_right_comm,
      Nat.pow_add, Nat.pow_add]
    exact ⟨Nat.mul_le_mul_right _ (Nat.log2_self_le hpos),
      Nat.mul_lt_mul_of_pos_right Nat.lt_log2_self htwo⟩
  have hunit : (a <<< s).log2 - 52 = a.log2 - 52 + s := by omega
  rw [nearestWord, Nat.div_one, hunit, Nat.one_shiftLeft, Nat.shiftLeft_eq, Nat.pow_add,
    roundHalfEven_mul_mul _ _ (Nat.two_pow_pos s)]

/-- Up to a limit that no integer of 64 bits comes near, the number nearest to an
integer is finite and has the magnitude that the integer is rounded to. -/
theorem ofInt_eq_ofWord_nearest {n : Int} (hn : n.natAbs ≤ 2 ^ 64) :
    ∃ m p, IsSignificand m p ∧ m <<< p = nearestNat n.natAbs <<< 1074 ∧
      ofInt n = ofWord (n < 0) (p * binade + m) := by
  rcases Nat.lt_or_ge n.natAbs (2 ^ 52) with hlt | hge
  · rw [nearestNat_eq_self (by omega)]
    exact ofInt_eq_ofWord (by omega)
  have hlog : n.natAbs.log2 ≤ 64 := by
    have hpow : n.natAbs < 2 ^ 65 := Nat.lt_of_le_of_lt hn (by decide)
    have := (Nat.log2_lt (by omega)).mpr hpow
    omega
  obtain ⟨hlow, hhigh⟩ := significand_bounds hge
  rw [ofInt, ofRatio, nearestWord_shiftLeft hge, nearestNat]
  have hunit : n.natAbs.log2 - 52 ≤ 12 := by omega
  generalize roundHalfEven n.natAbs (2 ^ (n.natAbs.log2 - 52)) = m at hlow hhigh ⊢
  generalize n.natAbs.log2 - 52 = u at hunit ⊢
  have hshift (k e : Nat) : k <<< (e + 1074) = (k * 2 ^ e) <<< 1074 := by
    rw [Nat.shiftLeft_eq, Nat.shiftLeft_eq, Nat.pow_add, Nat.mul_assoc]
  rcases Nat.lt_or_eq_of_le hhigh with hlt | rfl
  · exact ⟨m, u + 1074, ⟨hlt, .inr hlow, by omega⟩, hshift m u, rfl⟩
  · -- Rounded up to a power of two, which is the first significand of the next unit.
    refine ⟨2 ^ 52, u + 1 + 1074, ⟨by decide, .inr (Nat.le_refl _), by omega⟩, ?_, ?_⟩
    · rw [hshift, Nat.pow_succ 2 u, ← Nat.mul_assoc, Nat.mul_right_comm, ← Nat.pow_succ]
    · have hword : (u + 1074) * binade + 2 ^ 53 = (u + 1 + 1074) * binade + 2 ^ 52 := by
        simp only [binade]
        omega
      rw [hword]

/-- The number nearest to an integer has the value that the integer is rounded to. -/
theorem scaled_ofInt {n : Int} (hn : n.natAbs ≤ 2 ^ 64) :
    (ofInt n).scaled = nearestInteger n * 2 ^ 1074 := by
  obtain ⟨m, p, h, heq, hof⟩ := ofInt_eq_ofWord_nearest hn
  rw [scaled, hof, isNegative_ofWord _ h.word_lt, magnitude_ofWord _ h, heq, nearestInteger]
  generalize 1074 = s
  rw [Nat.shiftLeft_eq]
  obtain hneg | hnonneg := lt_or_ge n 0
  · simp [hneg]
  · simp [Int.not_lt.mpr hnonneg]

theorem isNaN_ofInt {n : Int} (hn : n.natAbs ≤ 2 ^ 64) : (ofInt n).isNaN = false := by
  obtain ⟨m, p, h, -, hof⟩ := ofInt_eq_ofWord_nearest hn
  rw [hof, isNaN_ofWord _ h.word_lt]

/-- Integers compare as what they are rounded to. -/
theorem compare?_ofInt_nearest {n n' : Int} (hn : n.natAbs ≤ 2 ^ 64) (hn' : n'.natAbs ≤ 2 ^ 64) :
    (ofInt n).compare? (ofInt n') = some (compare (nearestInteger n) (nearestInteger n')) := by
  have hmono : StrictMono fun k : Int => k * 2 ^ 1074 :=
    strictMono_mul_right_of_pos (pow_pos (by decide) _)
  rw [compare?, isNaN_ofInt hn, isNaN_ofInt hn', scaled_ofInt hn, scaled_ofInt hn',
    ← cmp_eq_compare, ← cmp_eq_compare, ← hmono.cmp_map_eq (nearestInteger n) (nearestInteger n')]
  rfl

/-- Integers of at most `2⁵³` compare as the numbers nearest to them. -/
theorem compare?_ofInt {n n' : Int} (hn : n.natAbs ≤ 2 ^ 53) (hn' : n'.natAbs ≤ 2 ^ 53) :
    (ofInt n).compare? (ofInt n') = some (compare n n') := by
  rw [compare?_ofInt_nearest (by omega) (by omega), nearestInteger_eq_self hn,
    nearestInteger_eq_self hn']

-- The bound cannot be raised: the next integer has the same number.
example : (ofInt 0x20000000000000).compare? (ofInt 0x20000000000001) = some .eq := by
  decide +kernel

end FacetedSearch.Binary64
