import FacetedSearch.Json.Basic
import FacetedSearch.Number.Shortest

/-!
# `FacetedSearch.Scalar`: the values that queries compare

A scalar is a truth value, a 64 bit integer, a binary64 number or a text.
It is what a query compares with, and what the leaves of a document are
compared as. `null`, arrays and objects are no scalars
(`ofJson?_eq_none_iff`).

Integers and binary64 numbers are one kind in comparisons: an integer
counts as the number nearest to it. Texts compare by code point, and
`false` comes before `true`. Scalars of different kinds are neither equal
nor ordered.

Words and facets see a scalar as its `text`.
-/

set_option autoImplicit false

namespace FacetedSearch

/-- A value without parts. -/
inductive Scalar where
  | boolean (value : Bool)
  | integer (value : Int64)
  | float (value : Binary64)
  | text (value : String)
deriving DecidableEq, Inhabited

namespace Scalar

/-- The scalar that a JSON value is. An integer beyond 64 bits with sign
becomes the number nearest to it. -/
def ofJson? : Json → Option Scalar
  | .bool b => some (.boolean b)
  | .string s => some (.text s)
  | .integer n =>
    if -0x8000000000000000 ≤ n ∧ n < 0x8000000000000000 then some (.integer (Int64.ofInt n))
    else some (.float (Binary64.ofInt n))
  | .float x => some (.float x)
  | .null | .array _ | .object _ => none

/-- The JSON value of a scalar; there is none but `null` for a number that
is not finite. -/
def toJson : Scalar → Json
  | .boolean b => .bool b
  | .integer n => .integer n.toInt
  | .float x => if x.isFinite then .float x else .null
  | .text s => .string s

/-- The scalar as a number. -/
def number? : Scalar → Option Binary64
  | .integer n => some (Binary64.ofInt n.toInt)
  | .float x => some x
  | .boolean _ | .text _ => none

/-- The scalar as a text. -/
def render : Scalar → String
  | .boolean b => if b then "true" else "false"
  | .integer n => toString n.toInt
  | .float x => x.text
  | .text s => s

/-! ### Comparison -/

/-- The order of two scalars; `none` for scalars of different kinds. -/
def compare? (a b : Scalar) : Option Ordering :=
  match a, b with
  | .text a, .text b => some (compare a b)
  | .boolean a, .boolean b => some (compare a b)
  | a, b => do Binary64.compare? (← a.number?) (← b.number?)

/-- Whether two scalars are equal as values: `1` equals `1.0`. -/
def sameValue (a b : Scalar) : Bool :=
  match a, b with
  | .text a, .text b => a = b
  | .boolean a, .boolean b => a = b
  | a, b =>
    match a.number?, b.number? with
    | some x, some y => x.compare? y = some .eq
    | _, _ => false

/-! ### Lemmas -/

/-- Exactly `null`, arrays and objects are no scalars. -/
theorem ofJson?_eq_none_iff (j : Json) :
    ofJson? j = none ↔ j.kind = .null ∨ j.kind = .array ∨ j.kind = .object := by
  cases j <;> simp [ofJson?, Json.kind]
  split <;> simp

end Scalar

end FacetedSearch
