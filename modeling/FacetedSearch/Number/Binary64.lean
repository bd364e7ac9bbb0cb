/-!
# `FacetedSearch.Number.Binary64`: double precision numbers, exactly

A number with a fraction is a binary64 word. Everything a search needs
to know about one is read off the word with natural number arithmetic,
so that it can be computed and reasoned about alike:

* `scaled` is the value as an integer count of `2⁻¹⁰⁷⁴`, the spacing of
  the smallest numbers. Two numbers compare as these integers do.
* `ofRatio` is the number nearest to a fraction, a tie going to the even
  neighbour. Integers (`ofInt`), numerals (`ofDecimal`) and the
  arithmetic of delays all round through it, once each.

The word of a magnitude is `p · 2⁵² + m`, where `p` is the exponent of
its unit `2ᵖ` above `2⁻¹⁰⁷⁴` and `m` its significand in that unit.
Rounding can carry `m` up to `2⁵³`; the sum then is already the word of
the next binade, so no case is needed for it.

Powers of two are written as shifts.
-/

set_option autoImplicit false

namespace FacetedSearch

/-- A binary64 number, as its 64 bits. -/
structure Binary64 where
  /-- Sign, eleven bits of exponent, 52 bits of fraction. -/
  bits : UInt64
deriving DecidableEq, Inhabited

namespace Binary64

/-- The sign bit, `2⁶³`. -/
def signBit : Nat := 0x8000000000000000

/-- The distance of the words of a number and its double, `2⁵²`. -/
def binade : Nat := 0x10000000000000

/-- The word of infinity. -/
def infiniteWord : Nat := 0x7ff0000000000000

/-! ### Reading a word -/

/-- Whether the sign bit is set. -/
def isNegative (x : Binary64) : Bool := signBit ≤ x.bits.toNat

/-- The word without its sign. -/
def word (x : Binary64) : Nat := x.bits.toNat % signBit

/-- Neither infinite nor a non-number. -/
def isFinite (x : Binary64) : Bool := x.word < infiniteWord

/-- No number at all. -/
def isNaN (x : Binary64) : Bool := infiniteWord < x.word

/-- The unit of a magnitude is `2 ^ unit` times `2⁻¹⁰⁷⁴`. -/
def unit (x : Binary64) : Nat := x.word / binade - 1

/-- The magnitude counted in its unit. -/
def significand (x : Binary64) : Nat := x.word - x.unit * binade

/-- The magnitude counted in `2⁻¹⁰⁷⁴`. -/
def magnitude (x : Binary64) : Nat := x.significand <<< x.unit

/-- The value counted in `2⁻¹⁰⁷⁴`; an infinity counts as the first number
too large to write. -/
def scaled (x : Binary64) : Int := if x.isNegative then -(x.magnitude : Int) else x.magnitude

/-- The order of two numbers; `none` when one of them is no number. -/
def compare? (x y : Binary64) : Option Ordering :=
  if x.isNaN || y.isNaN then none else some (compare x.scaled y.scaled)

/-! ### Rounding to a word -/

/-- The integer nearest to `a / d`, a tie going to the even one. -/
def roundHalfEven (a d : Nat) : Nat :=
  let q := a / d
  let r := a % d
  if 2 * r < d ∨ (2 * r = d ∧ q % 2 = 0) then q else q + 1

/-- The word of the magnitude nearest to `a / d` times `2⁻¹⁰⁷⁴`. -/
def nearestWord (a d : Nat) : Nat :=
  let p := (a / d).log2 - 52
  p * binade + roundHalfEven a (d <<< p)

/-- The number with this sign and word; a word past the last one is infinite. -/
def ofWord (negative : Bool) (w : Nat) : Binary64 :=
  let w := min w infiniteWord
  ⟨UInt64.ofNat (if negative then w + signBit else w)⟩

/-- The number nearest to `± a / d`. -/
def ofRatio (negative : Bool) (a d : Nat) : Binary64 :=
  ofWord negative (nearestWord (a <<< 1074) d)

/-- The number nearest to an integer. -/
def ofInt (n : Int) : Binary64 := ofRatio (n < 0) n.natAbs 1

/-- The number nearest to `± m · 10 ^ e`. Far outside `10 ^ ±400` the
answer is infinite or zero whatever the digits are, and no power of ten
is computed for it. -/
def ofDecimal (negative : Bool) (m : Nat) (e : Int) : Binary64 :=
  if m = 0 then ofWord negative 0
  else if 400 < e then ofWord negative infiniteWord
  else if 0 ≤ e then ofRatio negative (m * Nat.pow 10 e.toNat) 1
  else if m.log2 + 1 + e < -400 then ofWord negative 0
  else ofRatio negative m (Nat.pow 10 (-e).toNat)

/-- The sum of two magnitudes, rounded once. -/
def addMagnitudes (x y : Binary64) : Binary64 :=
  ofRatio false (x.magnitude + y.magnitude) (1 <<< 1074)

/-- The product, rounded once. -/
def mul (x y : Binary64) : Binary64 :=
  ofRatio (x.isNegative != y.isNegative) (x.magnitude * y.magnitude) (1 <<< 2148)

end Binary64

end FacetedSearch
