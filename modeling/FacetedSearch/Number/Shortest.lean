import FacetedSearch.Number.Binary64

/-!
# `FacetedSearch.Number.Shortest`: the decimal text of a number

The text of a number is positional, has no exponent, and has the fewest
significant digits that still round to the number; of several such
decimals it is the nearest one, and of two equally near ones the larger.

`Binary64.shortest?` works on the exact value. The reals that round to a
number with significand `m` reach half a unit to either side, half as
far downwards where the unit changes, and include their ends when `m` is
even. On ever finer decimal grids, the first one coarser than the value,
the two grid points around the value are tried against that interval; 17
digits always suffice. Values, ends and grid points
are all whole multiples of `2⁻¹⁰⁷⁶ · 10⁻³⁴⁰`, so the trial compares
natural numbers.
-/

set_option autoImplicit false

namespace FacetedSearch

/-- The decimal `digits · 10 ^ exponent`. -/
structure Decimal where
  digits : Nat
  exponent : Int
deriving DecidableEq, Inhabited

namespace Decimal

/-- The decimal written out: `25 · 10 ^ -1` is 2.5. -/
def text (x : Decimal) : String :=
  let ds := Nat.toDigits 10 x.digits
  if 0 ≤ x.exponent then
    String.ofList (ds ++ List.replicate x.exponent.toNat '0')
  else
    let places := (-x.exponent).toNat
    let ds := List.replicate (places + 1 - ds.length) '0' ++ ds
    String.ofList (ds.take (ds.length - places) ++ '.' :: ds.drop (ds.length - places))

end Decimal

namespace Binary64

/-- The reals that round to a magnitude, in units of `2⁻¹⁰⁷⁶ · 10⁻³⁴⁰`. -/
structure Interval where
  low : Nat
  value : Nat
  high : Nat
  /-- Whether the ends round to the magnitude as well. -/
  closed : Bool

/-- The reals that round to the magnitude of a finite number. -/
def interval (x : Binary64) : Interval :=
  let half := 2 <<< x.unit
  let below := if x.significand = binade ∧ 0 < x.unit then half / 2 else half
  let fine := Nat.pow 10 340
  { low := (4 * x.magnitude - below) * fine
    value := 4 * x.magnitude * fine
    high := (4 * x.magnitude + half) * fine
    closed := x.significand % 2 = 0 }

namespace Interval

/-- Whether a point rounds to the magnitude. -/
def contains (i : Interval) (point : Nat) : Bool :=
  if i.closed then i.low ≤ point && point ≤ i.high else i.low < point && point < i.high

/-- The decimal with the given exponent that lies in the interval and is
nearest to the value, the larger one of two. -/
def nearestOnGrid? (i : Interval) (exponent : Int) : Option Decimal :=
  let step := Nat.pow 10 (exponent + 340).toNat <<< 1076
  let below := i.value / step
  let above := below + 1
  match i.contains (below * step), i.contains (above * step) with
  | true, true =>
    some ⟨if i.value - below * step < above * step - i.value then below else above, exponent⟩
  | true, false => some ⟨below, exponent⟩
  | false, true => some ⟨above, exponent⟩
  | false, false => none

end Interval

/-- The shortest decimal that rounds to the magnitude of a finite number
other than zero: on the coarsest grid with a point in its interval. -/
def shortest? (x : Binary64) : Option Decimal :=
  let i := x.interval
  let scale : Int := (Nat.toDigits 10 (i.value >>> 1076)).length - 340
  (List.range 18).findSome? fun n => i.nearestOnGrid? (scale - (n : Nat))

/-- The text of a number. -/
def text (x : Binary64) : String :=
  let sign := if x.isNegative then "-" else ""
  if x.isNaN then "NaN"
  else if !x.isFinite then sign ++ "inf"
  else if x.word = 0 then sign ++ "0"
  else sign ++ (x.shortest?.map Decimal.text).getD ""

end Binary64

end FacetedSearch
